import Tagdown.Text.CharacterTable
import Tagdown.Text.LetterTables

/-!
# Lower case

`lowercase` puts a text into lower case in the sense of the Unicode standard, without regard
to a language. Each character has an image of its own, but for two rules:

* a capital I with a dot becomes an i and a combining dot;
* a capital sigma at the end of a word takes its final form.
-/

namespace Tagdown.Text

/-- The letters with a lower case of a single character. -/
def lowercaseMap : CharacterMap := .ofSource lowercaseSource

/-- The characters that have a case. -/
def casedSet : CharacterSet := .ofSource casedSource

/-- The marks that do not separate a letter from the next one. -/
def caseIgnorableSet : CharacterSet := .ofSource caseIgnorableSource

/-- The first character that is not passed over has a case. -/
def startsCased (s : List Char) : Bool :=
  match s.dropWhile caseIgnorableSet.contains with
  | c :: _ => casedSet.contains c
  | [] => false

/-- The lower case of one character, where the context does not matter. -/
def lowercaseChar (c : Char) : List Char :=
  if c = Char.ofNat 0x130 then ['i', Char.ofNat 0x307] else [lowercaseMap.apply c]

/-- The lower case of a capital sigma: the final form after a letter and not before one. -/
def lowercaseSigma (before after : List Char) : Char :=
  if startsCased before && !startsCased after then Char.ofNat 0x3C2 else Char.ofNat 0x3C3

/-- Lower case of a text; `before` is what stands before it, nearest character first. -/
def lowercaseFrom (before : List Char) : List Char → List Char
  | [] => []
  | c :: rest =>
    let image := if c = Char.ofNat 0x3A3 then [lowercaseSigma before rest] else lowercaseChar c
    image ++ lowercaseFrom (c :: before) rest

/-- The text in lower case. -/
def lowercase (s : String) : String :=
  mapChars (lowercaseFrom []) s

end Tagdown.Text
