import Tagdown.Decimal.Shortest
import Tagdown.Text.Quoted

/-!
# The tokens of JSON

`tokens` cuts a text into the tokens of JSON. It does not fail: where the text is no JSON, the
list of tokens ends with `bad`. Whoever reads the tokens meets that one in its place, after
all that comes before it in the text.
-/

namespace Tagdown.Json

open Text (isAsciiDigit hexValue? digitsValue scalar?)

/-- A number: whole if it is written so and fits into 64 bits, and a double otherwise. -/
inductive Number where
  | integer (n : Int)
  | float (x : Float)

/-- A token of JSON. -/
inductive Token where
  | openBrace
  | closeBrace
  | openBracket
  | closeBracket
  | comma
  | colon
  | null
  | bool (b : Bool)
  | number (n : Number)
  | string (s : String)
  /-- The text goes on with something that is no token. -/
  | bad

/-! ## Numbers -/

/-- The greatest whole number of 64 bits. -/
def maxSignificand : Nat := Nat.pow 2 64 - 1

/-- The digits of a number as they are read: those that fit into 64 bits, the power of ten by
which they count, and how many digits were dropped. -/
structure Significand where
  value : Nat := 0
  exponent : Int := 0
  overflow : Bool := false

/-- Read a digit before the point. Digits that do not fit any more only count. -/
def Significand.pushWhole (s : Significand) (d : Nat) : Significand :=
  if !s.overflow && s.value * 10 + d ≤ maxSignificand then { s with value := s.value * 10 + d }
  else { s with exponent := s.exponent + 1, overflow := true }

/-- Read a digit after the point. Digits that do not fit any more are dropped. -/
def Significand.pushFraction (s : Significand) (d : Nat) : Significand :=
  if !s.overflow && s.value * 10 + d ≤ maxSignificand then
    { s with value := s.value * 10 + d, exponent := s.exponent - 1 }
  else { s with overflow := true }

/-- A significand that is full refuses every further digit of a fraction, also one that would
fit, because its last digit was refused before. -/
def Significand.startFraction (s : Significand) : Significand :=
  { s with overflow := s.overflow && maxSignificand < s.value * 10 }

/-- The number times a power of ten, in steps that a double can hold. Nothing if it is greater
than every double. -/
def scale? : Nat → Float → Int → Option Float
  | 0, _, _ => none
  | fuel + 1, x, exponent =>
    if exponent.natAbs ≤ 308 then
      let power := Float.ofScientific 1 false exponent.natAbs
      if 0 ≤ exponent then
        let y := x * power
        if y.isInf then none else some y
      else some (x / power)
    else if x == 0 then some x
    else if 0 ≤ exponent then none
    else scale? fuel (x / Float.ofScientific 1 false 308) (exponent + 308)

/-- The double that the digits stand for. An exponent out of all proportion gives zero or
nothing, as it would if it were followed through. -/
def Significand.toFloat? (s : Significand) (negative : Bool) : Option Float :=
  let exponent := if s.exponent < -100000 then -100000 else s.exponent
  (scale? 400 (Float.ofNat s.value) exponent).map fun x => if negative then -x else x

/-- The value of a digit. -/
def digitValue (c : Char) : Nat :=
  c.toNat - '0'.toNat

/-- The exponent after its `e`: digits with an optional sign. -/
def readExponent? (s : List Char) : Option (Int × List Char) :=
  let (negative, s) := match s with
    | '-' :: rest => (true, rest)
    | '+' :: rest => (false, rest)
    | s => (false, s)
  let digits := s.takeWhile isAsciiDigit
  let n : Int := digitsValue 10 (digits.map digitValue)
  if digits.isEmpty then none else some (if negative then -n else n, s.dropWhile isAsciiDigit)

/-- The exponent of a number, if it has one. -/
def readExponentPart? (s : List Char) : Option (Option Int × List Char) :=
  match s with
  | 'e' :: rest => (readExponent? rest).map fun (n, rest) => (some n, rest)
  | 'E' :: rest => (readExponent? rest).map fun (n, rest) => (some n, rest)
  | s => some (none, s)

/-- A number after its sign. A zero at the beginning stands alone. -/
def readNumber? (negative : Bool) (s : List Char) : Option (Number × List Char) := do
  let whole := s.takeWhile isAsciiDigit
  if whole.isEmpty || (whole.head? = some '0' && 1 < whole.length) then none
  let sig := whole.foldl (fun sig c => sig.pushWhole (digitValue c)) ({} : Significand)
  let (fraction, rest) ← match s.dropWhile isAsciiDigit with
    | '.' :: rest =>
      let fraction := rest.takeWhile isAsciiDigit
      if fraction.isEmpty then none else some (fraction, rest.dropWhile isAsciiDigit)
    | rest => some ([], rest)
  let (exponent, rest) ← readExponentPart? rest
  if fraction.isEmpty && exponent.isNone && !sig.overflow
      && !(negative && (sig.value = 0 || Nat.pow 2 63 < sig.value)) then
    some (.integer (if negative then -sig.value else sig.value), rest)
  else
    let sig := fraction.foldl (fun sig c => sig.pushFraction (digitValue c)) sig.startFraction
    let sig := { sig with exponent := sig.exponent + exponent.getD 0 }
    (sig.toFloat? negative).map fun x => (.float x, rest)

/-! ## Strings -/

/-- Four hexadecimal digits. -/
def readHex4? (s : List Char) : Option (Nat × List Char) :=
  match s with
  | a :: b :: c :: d :: rest =>
    ([a, b, c, d].mapM hexValue?).map fun digits => (digitsValue 16 digits, rest)
  | _ => none

/-- The character written by `\u` and what follows it. One beyond the first 65536 is written
as two halves, and no half stands alone. -/
def readUnicode? (s : List Char) : Option (Char × List Char) := do
  let (n, rest) ← readHex4? s
  if 0xD800 ≤ n && n ≤ 0xDBFF then
    match rest with
    | '\\' :: 'u' :: rest =>
      let (low, rest) ← readHex4? rest
      if 0xDC00 ≤ low && low ≤ 0xDFFF then
        some (Char.ofNat (0x10000 + (n - 0xD800) * 0x400 + (low - 0xDC00)), rest)
      else none
    | _ => none
  else (scalar? n).map (·, rest)

/-- The character that a single letter after a backslash stands for. -/
def simpleEscape? (c : Char) : Option Char :=
  match c with
  | '"' => some '"'
  | '\\' => some '\\'
  | '/' => some '/'
  | 'b' => some '\x08'
  | 'f' => some '\x0c'
  | 'n' => some '\n'
  | 'r' => some '\r'
  | 't' => some '\t'
  | _ => none

/-- A string after its opening quote; `done` is what has been read, last character first. -/
def readString? : Nat → List Char → List Char → Option (String × List Char)
  | 0, _, _ => none
  | fuel + 1, done, s =>
    match s with
    | [] => none
    | '"' :: rest => some (String.ofList done.reverse, rest)
    | '\\' :: 'u' :: rest =>
      (readUnicode? rest).bind fun (c, rest) => readString? fuel (c :: done) rest
    | '\\' :: c :: rest =>
      (simpleEscape? c).bind fun c => readString? fuel (c :: done) rest
    | '\\' :: [] => none
    | c :: rest => if c.toNat < 0x20 then none else readString? fuel (c :: done) rest

/-! ## The tokens -/

/-- The white space of JSON. -/
def isBlankChar (c : Char) : Bool :=
  c == ' ' || c == '\n' || c == '\t' || c == '\r'

/-- The first token of a text that begins with `c`. -/
def readToken? (c : Char) (rest : List Char) : Option (Token × List Char) :=
  match c with
  | '{' => some (.openBrace, rest)
  | '}' => some (.closeBrace, rest)
  | '[' => some (.openBracket, rest)
  | ']' => some (.closeBracket, rest)
  | ',' => some (.comma, rest)
  | ':' => some (.colon, rest)
  | '"' => (readString? (rest.length + 1) [] rest).map fun (s, rest) => (.string s, rest)
  | 'n' => match rest with
    | 'u' :: 'l' :: 'l' :: rest => some (.null, rest)
    | _ => none
  | 't' => match rest with
    | 'r' :: 'u' :: 'e' :: rest => some (.bool true, rest)
    | _ => none
  | 'f' => match rest with
    | 'a' :: 'l' :: 's' :: 'e' :: rest => some (.bool false, rest)
    | _ => none
  | '-' => (readNumber? true rest).map fun (n, rest) => (.number n, rest)
  | c => (readNumber? false (c :: rest)).map fun (n, rest) => (.number n, rest)

/-- The tokens of a text. -/
def tokensFrom : Nat → List Char → List Token
  | 0, _ => [.bad]
  | fuel + 1, s =>
    match s.dropWhile isBlankChar with
    | [] => []
    | c :: rest =>
      match readToken? c rest with
      | none => [.bad]
      | some (token, rest) => token :: tokensFrom fuel rest

/-- The tokens of a text. Each takes at least one character, and a last round finds none. -/
def tokens (s : String) : List Token :=
  tokensFrom (s.toList.length + 1) s.toList

/-! ## How a message names a value -/

/-- A number in a message. -/
def Number.describe : Number → String
  | integer n => "integer `" ++ toString n ++ "`"
  | float x => "floating point `" ++ Decimal.ofDouble x ++ "`"

/-- The value that begins with a token, in a message; nothing if no value does. -/
def Token.describe? : Token → Option String
  | openBrace => some "map"
  | openBracket => some "sequence"
  | null => some "null"
  | bool b => some ("boolean `" ++ toString b ++ "`")
  | number n => some n.describe
  | string s => some ("string " ++ Text.quoted s)
  | _ => none

end Tagdown.Json
