import Tagdown.Entity.Names

/-!
# Reading character references

`decode` replaces each `&name;`, `&#digits;` and `&#xdigits;` by what it stands for, in one
pass: what comes out is not read again. Whatever is no reference stays as it is, and so does
a reference without its semicolon.

A name that stands for two characters is decoded to the first of them.
-/

namespace Tagdown.Entity

open Text (digitsValue hexValue? isAsciiDigit scalar?)

/-- The number written by digits of the given base: at least one digit, and nothing else. -/
def number? (base : Nat) (s : List Char) : Option Nat :=
  match s.mapM hexValue? with
  | some (d :: ds) => if (d :: ds).all (· < base) then some (digitsValue base (d :: ds)) else none
  | _ => none

/-- The control characters below U+0020 that a number may stand for: tab, line feed, form feed
and carriage return. -/
def isAllowedControl (n : Nat) : Bool :=
  n == 0x09 || n == 0x0A || n == 0x0C || n == 0x0D

/-- The character with a code given in a reference. -/
def numbered? (n : Nat) : Option Char :=
  if n < 0x20 && !isAllowedControl n then none else scalar? n

/-- What the text between `&` and `;` stands for. -/
def resolve? (name : List Char) : Option Char :=
  match name with
  | '#' :: 'x' :: digits => (number? 16 digits).bind numbered?
  | '#' :: 'X' :: digits => (number? 16 digits).bind numbered?
  | '#' :: digits => (number? 10 digits).bind numbered?
  | name => (named? (String.ofList name)).bind List.head?

/-- A complete reference: what it stands for, or else the reference itself. -/
def decodeReference (name : List Char) : List Char :=
  match resolve? name with
  | some c => [c]
  | none => '&' :: (name ++ [';'])

/-- Decode a text. After an `&` that is not settled yet, `pending` holds what followed it so
far, last character first. -/
def decodeFrom : Option (List Char) → List Char → List Char
  | none, [] => []
  | some pending, [] => '&' :: pending.reverse
  | none, c :: rest =>
    if c = '&' then decodeFrom (some []) rest else c :: decodeFrom none rest
  | some pending, c :: rest =>
    if c = '&' then '&' :: (pending.reverse ++ decodeFrom (some []) rest)
    else if c = ';' then decodeReference pending.reverse ++ decodeFrom none rest
    else decodeFrom (some (c :: pending)) rest

/-- Replace the character references of a text. -/
def decode (s : List Char) : List Char :=
  decodeFrom none s

end Tagdown.Entity
