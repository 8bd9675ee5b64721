/-!
# Relations between places

A `Relation` says which places of a text, numbered from zero, are related to which. A set of
places is a number whose bit `j` stands for place `j`, and a relation has such a set for each
place.

The operations are those that patterns are put together by. Many repetitions are counted by
halving, and any number of them by taking in one place after the other on the way.
-/

namespace Tagdown.Regex

/-- A relation between finitely many places. -/
structure Relation where
  /-- for each place the set of those that it is related to -/
  rows : Array Nat

namespace Relation

/-- The number of places. -/
def size (r : Relation) : Nat :=
  r.rows.size

/-- The places that place `i` is related to. -/
def row (r : Relation) (i : Nat) : Nat :=
  r.rows.getD i 0

/-- Place `i` is related to place `j`. -/
def relates (r : Relation) (i j : Nat) : Bool :=
  (r.row i).testBit j

/-- Some place is related to some place. -/
def isInhabited (r : Relation) : Bool :=
  r.rows.any (· != 0)

/-- A relation between `n` places, given by its rows. -/
def ofRows (n : Nat) (row : Nat → Nat) : Relation :=
  ⟨Array.ofFn fun i : Fin n => row i⟩

/-- Each place is related to itself. -/
def identity (n : Nat) : Relation :=
  ofRows n fun i => 1 <<< i

/-- By either of two relations. -/
def union (r s : Relation) : Relation :=
  ofRows r.size fun i => r.row i ||| s.row i

/-- The places that the last of a set are related to, up to `fuel` of them. -/
def imageWithin (r : Relation) : Nat → Nat → Nat
  | 0, _ => 0
  | fuel + 1, set =>
    if set = 0 then 0
    else r.row set.log2 ||| imageWithin r fuel (set ^^^ (1 <<< set.log2))

/-- The places that those of a set are related to. -/
def image (r : Relation) (set : Nat) : Nat :=
  r.imageWithin (set.log2 + 1) set

/-- By one relation and then by another. -/
def comp (r s : Relation) : Relation :=
  ofRows r.size fun i => s.image (r.row i)

/-- By `n` steps of a relation, in so many halvings of `n` as `fuel` allows. -/
def powerWithin (r : Relation) : Nat → Nat → Relation
  | 0, _ => identity r.size
  | fuel + 1, n =>
    if n = 0 then identity r.size
    else
      let half := powerWithin r fuel (n / 2)
      let even := half.comp half
      if n % 2 = 0 then even else even.comp r

/-- By exactly `n` steps of a relation. -/
def power (r : Relation) (n : Nat) : Relation :=
  r.powerWithin n n

/-- By the relation, or by way of the place `k`. -/
def addPivot (r : Relation) (k : Nat) : Relation :=
  let onward := r.row k
  ofRows r.size fun i => if (r.row i).testBit k then r.row i ||| onward else r.row i

/-- By any number of steps of a relation. -/
def closure (r : Relation) : Relation :=
  (List.range r.size).foldl addPivot (r.union (identity r.size))

end Relation

end Tagdown.Regex
