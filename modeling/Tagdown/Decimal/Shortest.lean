/-!
# The shortest decimal that reads back

A finite binary number is `m · 2^q`. All reals near enough to it are read back as the same
number; they form an interval around it, closed when `m` is even. `shortest` gives the decimal
with the fewest digits in that interval, and of those the nearest to the number.

Everything here is exact arithmetic on natural numbers. A number is a fraction with the
denominator kept apart, and a decimal is `digits · 10^exponent`.
-/

namespace Tagdown.Decimal

/-- A positive binary number: `m · 2^q`. -/
structure Binary where
  m : Nat
  q : Int
  /-- the next smaller number is only half as far away as the next greater one -/
  narrowBelow : Bool

/-- A decimal: `digits · 10^exponent`. -/
structure Scaled where
  digits : Nat
  exponent : Int

/-- The parts of a double, given its 64 bits: the sign and, unless it is zero, the number. -/
def Binary.ofBits (bits : Nat) : Bool × Option Binary :=
  let negative := bits / Nat.pow 2 63 % 2 == 1
  let biased : Nat := bits / Nat.pow 2 52 % Nat.pow 2 11
  let fraction : Nat := bits % Nat.pow 2 52
  if biased = 0 then
    (negative, if fraction = 0 then none else some ⟨fraction, -1074, false⟩)
  else
    (negative,
      some ⟨fraction + Nat.pow 2 52, (biased : Int) - 1075, fraction == 0 && 1 < biased⟩)

/-- The number scaled by four, as numerator and denominator, after division by `10^exponent`.
The scale keeps the ends of the interval whole. -/
def Binary.scaled (b : Binary) (exponent : Int) : Nat × Nat :=
  (Nat.pow 2 b.q.toNat * Nat.pow 10 (-exponent).toNat,
    Nat.pow 2 (-b.q).toNat * Nat.pow 10 exponent.toNat)

/-- The decimal reads back as the number. With all sides multiplied by four times the
denominator, the interval reaches from `4m - 2`, or `4m - 1` where the numbers below are
closer, to `4m + 2`. -/
def Binary.contains (b : Binary) (d : Scaled) : Bool :=
  let (unit, denominator) := b.scaled d.exponent
  let low := (4 * b.m - if b.narrowBelow then 1 else 2) * unit
  let high := (4 * b.m + 2) * unit
  let value := 4 * d.digits * denominator
  if b.m % 2 = 0 then low ≤ value && value ≤ high else low < value && value < high

/-- The distance of the decimal from the number, in a unit that depends on the exponent only. -/
def Binary.distance (b : Binary) (d : Scaled) : Nat :=
  let (unit, denominator) := b.scaled d.exponent
  let value := d.digits * denominator
  if b.m * unit ≤ value then value - b.m * unit else b.m * unit - value

/-- The nearest decimal with this exponent that reads back, if there is one. Only the two
neighbours of the number can be it. Of two that are equally near, the even one is taken. -/
def Binary.nearest? (b : Binary) (exponent : Int) : Option Scaled :=
  let (unit, denominator) := b.scaled exponent
  let below : Scaled := ⟨b.m * unit / denominator, exponent⟩
  let above : Scaled := ⟨below.digits + 1, exponent⟩
  match b.contains below, b.contains above with
  | true, true =>
    if b.distance below < b.distance above then some below
    else if b.distance above < b.distance below then some above
    else if below.digits % 2 = 0 then some below else some above
  | true, false => some below
  | false, true => some above
  | false, false => none

/-- Take zeros from the end of the digits, at most `fuel` of them. -/
def Scaled.dropZeros : Nat → Scaled → Scaled
  | 0, d => d
  | fuel + 1, d =>
    if d.digits ≠ 0 ∧ d.digits % 10 = 0 then dropZeros fuel ⟨d.digits / 10, d.exponent + 1⟩
    else d

/-- Try exponents from `exponent` downwards. -/
def Binary.shortestFrom (b : Binary) : Nat → Int → Scaled
  | 0, exponent => ⟨0, exponent⟩
  | fuel + 1, exponent =>
    match b.nearest? exponent with
    | some d => if d.digits = 0 then shortestFrom b fuel (exponent - 1) else d.dropZeros 400
    | none => shortestFrom b fuel (exponent - 1)

/-- The decimal with the fewest digits that reads back. Every double is below `10^309`, and
its digits end above `10^-1100`. -/
def Binary.shortest (b : Binary) : Scaled :=
  b.shortestFrom 1500 309

/-! ## Text -/

/-- With its point after `pointPlace` digits (before the first one, if negative), a decimal is
written with the point in place; one that is much greater or smaller has an exponent. -/
def isPositional (pointPlace : Int) : Bool :=
  -5 < pointPlace && pointPlace ≤ 16

/-- An exponent of ten in text, always with its sign. -/
def exponentText (exponent : Int) : String :=
  (if 0 ≤ exponent then "e+" else "e-") ++ toString exponent.natAbs

/-- A decimal in text. It has a point, with at least one digit on both sides, or an exponent. -/
def Scaled.toText (d : Scaled) : String :=
  let digits := Nat.toDigits 10 d.digits
  let pointPlace : Int := digits.length + d.exponent
  let zeros (n : Int) := List.replicate n.toNat '0'
  let text :=
    if isPositional pointPlace then
      if 0 ≤ d.exponent then digits ++ zeros d.exponent ++ ['.', '0']
      else if 0 < pointPlace then
        digits.take pointPlace.toNat ++ '.' :: digits.drop pointPlace.toNat
      else '0' :: '.' :: zeros (-pointPlace) ++ digits
    else
      let mantissa := match digits with
        | [d] => [d]
        | digits => digits.take 1 ++ '.' :: digits.drop 1
      mantissa ++ (exponentText (pointPlace - 1)).toList
  String.ofList text

/-- The text of a finite double. Zero keeps its sign. -/
def ofDouble (x : Float) : String :=
  match Binary.ofBits x.toBits.toNat with
  | (negative, b) =>
    let text := match b with
      | none => "0.0"
      | some b => b.shortest.toText
    if negative then "-" ++ text else text

end Tagdown.Decimal
