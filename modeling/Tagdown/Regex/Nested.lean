/-!
# Depth

Groups, repetitions, classes and the like stand inside each other, and a pattern is refused
when too many do. Whoever reads a pattern keeps count of that with the parts that it reads.
-/

namespace Tagdown.Regex

/-- How many parts of a pattern can stand inside each other. -/
def maxDepth : Nat := 250

/-- A part of a pattern, and how many parts stand inside each other in it. A single character
counts as none. -/
structure Nested (α : Type) where
  value : α
  depth : Nat := 0

/-- The depth of parts next to each other. Several make up a part of its own. -/
def depthTogether (depths : List Nat) : Nat :=
  match depths with
  | [] => 0
  | [depth] => depth
  | depths => depths.foldl max 0 + 1

end Tagdown.Regex
