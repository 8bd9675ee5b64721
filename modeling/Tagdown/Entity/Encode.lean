import Tagdown.Text.Character

/-!
# Writing text as HTML

`encodeText` and `encodeAttribute` make a text safe between tags and between double quotes.
They write a character reference for the characters with a meaning of their own there, and
for the no-break space, which would be taken for a space otherwise.
-/

namespace Tagdown.Entity

open Text (noBreakSpace)

/-- One character of a text between tags. -/
def encodeTextChar (c : Char) : List Char :=
  if c = '&' then "&amp;".toList
  else if c = '<' then "&lt;".toList
  else if c = '>' then "&gt;".toList
  else if c = noBreakSpace then "&nbsp;".toList
  else [c]

/-- One character of an attribute value between double quotes. -/
def encodeAttributeChar (c : Char) : List Char :=
  if c = '"' then "&quot;".toList else encodeTextChar c

/-- A text as it stands between tags. -/
def encodeText (s : List Char) : List Char :=
  s.flatMap encodeTextChar

/-- An attribute value as it stands between double quotes. -/
def encodeAttribute (s : List Char) : List Char :=
  s.flatMap encodeAttributeChar

@[simp] theorem encodeText_nil : encodeText [] = [] := rfl

@[simp] theorem encodeText_cons (c : Char) (s : List Char) :
    encodeText (c :: s) = encodeTextChar c ++ encodeText s := List.flatMap_cons

@[simp] theorem encodeText_append (s t : List Char) :
    encodeText (s ++ t) = encodeText s ++ encodeText t := List.flatMap_append

end Tagdown.Entity
