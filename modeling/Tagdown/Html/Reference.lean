import Tagdown.Entity.Names
import Tagdown.Html.Token

/-!
# Character references in HTML

A browser is more generous with references than `Entity.decode`: some names need no semicolon,
every number stands for some character, and a name that stands for two characters gives both.
`readReference?` reads one reference, by the longest name that fits.

In an attribute a name without semicolon counts only if the text does not go on like a name or
with an equals sign; otherwise it would break addresses with parameters.
-/

namespace Tagdown.Html

open Text (isAsciiDigit isAsciiLetter hexValue? digitsValue scalar?)

/-- A letter or a digit. -/
def isAlphanumeric (c : Char) : Bool :=
  isAsciiLetter c || isAsciiDigit c

/-- What the numbers from 128 to 159 stand for. They are no characters in use, and are taken
for those of an encoding that was common once. Zero means the number itself. -/
def windowsCodes : List Nat :=
  [0x20AC, 0, 0x201A, 0x0192, 0x201E, 0x2026, 0x2020, 0x2021, 0x02C6, 0x2030, 0x0160, 0x2039,
   0x0152, 0, 0x017D, 0, 0, 0x2018, 0x2019, 0x201C, 0x201D, 0x2022, 0x2013, 0x2014, 0x02DC,
   0x2122, 0x0161, 0x203A, 0x0153, 0, 0x017E, 0x0178]

/-- The character that a number stands for. -/
def numberedChar (n : Nat) : Char :=
  if n = 0 then replacementChar
  else if 0x80 ≤ n && n ≤ 0x9F then
    match windowsCodes[n - 0x80]? with
    | some code => if code = 0 then Char.ofNat n else Char.ofNat code
    | none => Char.ofNat n
  else (scalar? n).getD replacementChar

/-- A character reference at the beginning of a text. -/
structure Reference where
  /-- what it stands for -/
  chars : List Char
  /-- it ends with a semicolon, as it should -/
  closed : Bool
  /-- the text after it -/
  rest : List Char

/-- A number after its marker, with or without a semicolon. -/
def readNumbered? (base : Nat) (s : List Char) : Option Reference :=
  let isDigit (c : Char) : Bool := (hexValue? c).any (· < base)
  let digits := (s.takeWhile isDigit).filterMap hexValue?
  let chars := [numberedChar (digitsValue base digits)]
  if digits.isEmpty then none
  else
    match s.dropWhile isDigit with
    | ';' :: rest => some ⟨chars, true, rest⟩
    | rest => some ⟨chars, false, rest⟩

/-- The reference whose name is the first `n` characters, if these are a name. Even then it
may count for nothing in an attribute, and no shorter name is to be tried. -/
def readNamedOfLength? (inAttribute : Bool) (s : List Char) (n : Nat) :
    Option (Option Reference) :=
  let name := String.ofList (s.take n)
  let rest := s.drop n
  match rest with
  | ';' :: after =>
    match Entity.named? name with
    | some chars => some (some ⟨chars, true, after⟩)
    | none => if Entity.mayLackSemicolon name then unfinished name rest else none
  | _ => if Entity.mayLackSemicolon name then unfinished name rest else none
where
  /-- A name without its semicolon. In an attribute it may turn out to be no reference. -/
  unfinished (name : String) (rest : List Char) : Option (Option Reference) :=
    if inAttribute && rest.head?.any fun c => c == '=' || isAlphanumeric c then some none
    else some ((Entity.named? name).map (⟨·, false, rest⟩))

/-- The reference with the longest name, of at most `n` characters. -/
def readNamed? (inAttribute : Bool) (s : List Char) : Nat → Option Reference
  | 0 => none
  | n + 1 =>
    match readNamedOfLength? inAttribute s (n + 1) with
    | some result => result
    | none => readNamed? inAttribute s n

/-- Read a reference after its `&`. -/
def readReference? (inAttribute : Bool) (s : List Char) : Option Reference :=
  match s with
  | '#' :: 'x' :: rest => readNumbered? 16 rest
  | '#' :: 'X' :: rest => readNumbered? 16 rest
  | '#' :: rest => readNumbered? 10 rest
  | s =>
    let longest := ((s.take Entity.longestName).takeWhile isAlphanumeric).length
    readNamed? inAttribute s longest

/-- Replace the references in the value of an attribute. -/
def expandReferences : Nat → List Char → List Char
  | 0, s => s
  | _ + 1, [] => []
  | fuel + 1, c :: rest =>
    if c = '&' then
      match readReference? true rest with
      | some reference => reference.chars ++ expandReferences fuel reference.rest
      | none => c :: expandReferences fuel rest
    else replaceNul c :: expandReferences fuel rest

/-- The value that is written as `s`. Each round takes at least one character. -/
def attributeValue (s : List Char) : String :=
  String.ofList (expandReferences s.length s)

end Tagdown.Html
