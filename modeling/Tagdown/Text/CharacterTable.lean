import Tagdown.Text.Character

/-!
# Sets and maps of characters given by ranges

`CharacterSet` and `CharacterMap` are read from short texts in which hexadecimal codes stand
for characters. They hold what the Unicode standard gives as data.
-/

namespace Tagdown.Text

/-- The number written by hexadecimal digits; other characters are passed over. -/
def hexNumber (s : List Char) : Nat :=
  digitsValue 16 (s.filterMap hexValue?)

/-- The part before the first `c`, and the part after it if there is one. -/
def splitAtFirst (c : Char) (s : List Char) : List Char × Option (List Char) :=
  match s.dropWhile (· != c) with
  | [] => (s, none)
  | _ :: rest => (s.takeWhile (· != c), some rest)

/-- The bounds written as `LO-HI`, or as `LO` alone when they are equal. -/
def readBounds (s : List Char) : Nat × Nat :=
  match splitAtFirst '-' s with
  | (lo, some hi) => (hexNumber lo, hexNumber hi)
  | (lo, none) => (hexNumber lo, hexNumber lo)

/-- A set of characters, as ranges of codes with both ends included. -/
structure CharacterSet where
  ranges : List (Nat × Nat)

/-- The entries of a table, which are set off by blanks in each of its lines. -/
def tableEntries (lines : List String) : List (List Char) :=
  lines.flatMap fun line => line.toList.splitOn ' '

/-- Read a set from its ranges. -/
def CharacterSet.ofSource (source : List String) : CharacterSet :=
  ⟨(tableEntries source).map readBounds⟩

/-- The character is in the set. -/
def CharacterSet.contains (set : CharacterSet) (c : Char) : Bool :=
  set.ranges.any fun (lo, hi) => lo ≤ c.toNat && c.toNat ≤ hi

/-- A range before others that begin no earlier than it does: what overlaps, or follows without
a gap, becomes one. -/
def joinRanges (range : Nat × Nat) : List (Nat × Nat) → List (Nat × Nat)
  | [] => [range]
  | next :: rest =>
    if next.1 ≤ range.2 + 1 then joinRanges (range.1, max range.2 next.2) rest
    else range :: joinRanges next rest

/-- The characters in any of the sets, by ranges that are sorted and apart from each other. -/
def CharacterSet.union (sets : List CharacterSet) : CharacterSet :=
  match (sets.flatMap CharacterSet.ranges).mergeSort (fun a b => a.1 ≤ b.1) with
  | [] => ⟨[]⟩
  | range :: rest => ⟨joinRanges range rest⟩

/-- The gaps between ranges that are sorted and apart from each other, from the code `lo` on. -/
def gapsFrom (lo : Nat) : List (Nat × Nat) → List (Nat × Nat)
  | [] => if lo ≤ 0x10FFFF then [(lo, 0x10FFFF)] else []
  | (first, last) :: rest =>
    if lo < first then (lo, first - 1) :: gapsFrom (last + 1) rest else gapsFrom (last + 1) rest

/-- All other characters. -/
def CharacterSet.complement (set : CharacterSet) : CharacterSet :=
  ⟨gapsFrom 0 (union [set]).ranges⟩

/-- The characters of one set that are not in the other. -/
def CharacterSet.diff (a b : CharacterSet) : CharacterSet :=
  (union [a.complement, b]).complement

/-- A range of codes that is mapped in order to the codes from `image` on, with `step` from
one code to the next on both sides. -/
structure MappedRange where
  lo : Nat
  hi : Nat
  step : Nat
  image : Nat

/-- Where the range takes a code, if the code is in it. -/
def MappedRange.imageOf? (range : MappedRange) (n : Nat) : Option Nat :=
  if range.lo ≤ n ∧ n ≤ range.hi ∧ (n - range.lo) % range.step = 0 then
    some (range.image + (n - range.lo))
  else none

/-- The code that the range takes to `n`, if there is one. -/
def MappedRange.preimage? (range : MappedRange) (n : Nat) : Option Nat :=
  let offset := n - range.image
  if range.image ≤ n ∧ range.lo + offset ≤ range.hi ∧ offset % range.step = 0 then
    some (range.lo + offset)
  else none

/-- A map that moves some characters and keeps all others. -/
structure CharacterMap where
  ranges : List MappedRange

/-- Read one entry `LO-HI/STEP:IMAGE`. -/
def MappedRange.ofSource (entry : List Char) : MappedRange :=
  let (domain, image) := splitAtFirst ':' entry
  let (bounds, step) := splitAtFirst '/' domain
  let (lo, hi) := readBounds bounds
  ⟨lo, hi, (step.map hexNumber).getD 1, hexNumber (image.getD [])⟩

/-- Read a map from its entries. -/
def CharacterMap.ofSource (source : List String) : CharacterMap :=
  ⟨(tableEntries source).map MappedRange.ofSource⟩

/-- The image of a character. -/
def CharacterMap.apply (map : CharacterMap) (c : Char) : Char :=
  match map.ranges.findSome? (·.imageOf? c.toNat) with
  | some n => Char.ofNat n
  | none => c

/-- The characters that are moved to `c`. -/
def CharacterMap.preimages (map : CharacterMap) (c : Char) : List Char :=
  (map.ranges.filterMap (·.preimage? c.toNat)).map Char.ofNat

end Tagdown.Text
