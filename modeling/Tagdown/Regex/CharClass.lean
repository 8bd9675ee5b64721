import Tagdown.Regex.ClassTables
import Tagdown.Text.CharacterTable
import Tagdown.Text.LetterTables

/-!
# Classes of characters in a pattern

A `CharClass` is written with ranges, the named classes and the operations on sets, and
`CharClass.contains` says which characters it has. `ignoringCase` closes a class under the
simple case folding: with a character it has every other one that folds to the same letter.
Where a pattern does without Unicode, `ignoringAsciiCase` does so for the 26 letters only.
-/

namespace Tagdown.Regex

open Text (CharacterSet CharacterMap)

/-- The decimal digits of all scripts. -/
def digitSet : CharacterSet := .ofSource digitSource

/-- The characters of words. -/
def wordSet : CharacterSet := .ofSource wordSource

/-- The letter that stands for all letters that differ from it in case alone. -/
def caseFolding : CharacterMap := .ofSource Text.foldingSource

/-- The characters that fold to the same letter as `c`, and `c` itself. -/
def caseVariants (c : Char) : List Char :=
  let folded := caseFolding.apply c
  c :: folded :: caseFolding.preimages folded

/-- The characters of words among the first 128. -/
def isAsciiWord (c : Char) : Bool :=
  Text.isAsciiLetter c || Text.isAsciiDigit c || c == '_'

/-- A set of characters, as a pattern writes it. -/
inductive CharClass where
  | nothing
  | range (lo hi : Char)
  | digit
  | space
  | word
  /-- the characters with a property -/
  | property (set : CharacterSet)
  | union (a b : CharClass)
  | inter (a b : CharClass)
  | diff (a b : CharClass)
  | symmDiff (a b : CharClass)
  | compl (a : CharClass)
  | ignoringCase (a : CharClass)
  /-- the same for the letters `A` to `Z` alone -/
  | ignoringAsciiCase (a : CharClass)

namespace CharClass

/-- The class of a single character. -/
def single (c : Char) : CharClass := .range c c

/-- The class of the characters in any of the ranges. -/
def ofRanges (ranges : List (Char × Char)) : CharClass :=
  ranges.foldr (fun (lo, hi) rest => .union (.range lo hi) rest) .nothing

/-- The character belongs to the class. -/
def contains : CharClass → Char → Bool
  | nothing, _ => false
  | range lo hi, c => lo ≤ c && c ≤ hi
  | digit, c => digitSet.contains c
  | space, c => Text.isWhitespace c
  | word, c => wordSet.contains c
  | property set, c => set.contains c
  | union a b, c => a.contains c || b.contains c
  | inter a b, c => a.contains c && b.contains c
  | diff a b, c => a.contains c && !b.contains c
  | symmDiff a b, c => a.contains c != b.contains c
  | compl a, c => !a.contains c
  | ignoringCase a, c => (caseVariants c).any a.contains
  | ignoringAsciiCase a, c => [c, c.toLower, c.toUpper].any a.contains

end CharClass

end Tagdown.Regex
