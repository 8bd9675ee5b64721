import Tagdown.Text.CharacterTable
import Tagdown.Text.QuoteTables

/-!
# Quoted text

`quoted` shows a text between double quotes so that every character in it can be told: the
quote, the backslash and the usual controls are escaped by a letter, and whatever has no shape
of its own by its code, as in `\u{a0}`.
-/

namespace Tagdown.Text

/-- The marks that attach to the character before them. -/
def graphemeExtendSet : CharacterSet := .ofSource graphemeExtendSource

/-- The characters without a glyph. -/
def unprintableSet : CharacterSet := .ofSource unprintableSource

/-- A character by its code in hexadecimal. -/
def escapeByCode (c : Char) : List Char :=
  "\\u\x7b".toList ++ Nat.toDigits 16 c.toNat ++ ['\x7d']

/-- One character inside a quotation. -/
def escapeChar (c : Char) : List Char :=
  if c = '\x00' then ['\\', '0']
  else if c = '\t' then ['\\', 't']
  else if c = '\r' then ['\\', 'r']
  else if c = '\n' then ['\\', 'n']
  else if c = '"' then ['\\', '"']
  else if c = '\\' then ['\\', '\\']
  else if graphemeExtendSet.contains c || unprintableSet.contains c then escapeByCode c
  else [c]

/-- The text between double quotes. -/
def quoted (s : String) : String :=
  "\"" ++ mapChars (·.flatMap escapeChar) s ++ "\""

end Tagdown.Text
