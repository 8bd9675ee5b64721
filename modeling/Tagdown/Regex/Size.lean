import Tagdown.Regex.Expr

/-!
# The size of a pattern

A repetition counts for as many copies of a pattern as it asks for, and so a short pattern can
stand for a huge one. `Expr.size` tells how much room a pattern takes once it is written out,
as an automaton that reads a text byte by byte; a pattern beyond `maxSize` is refused.

The size is counted in bytes: each state of the automaton has the same size, and what leads
from it to other states adds to that. The sizes of the larger classes are rounded.
-/

namespace Tagdown.Regex

/-- The greatest size of a pattern. -/
def maxSize : Nat := 10485760

/-- The size of one state. -/
def stateSize : Nat := 32

/-- What a range of bytes adds to the state that it leads away from. -/
def edgeSize : Nat := 8

/-- What a choice adds to its state, for each thing to choose from. -/
def choiceSize : Nat := 4

/-- What a range of characters adds to a property, on the average: the ranges share most of the
states for their last bytes. -/
def rangeSize : Nat := 65

/-- The states around a pattern: those that pass over the text before a match, and those that
note where it begins and ends. -/
def frameSize : Nat := 6 * stateSize + 2 * edgeSize

/-- The size of a single character: a state for each of its bytes. -/
def charSize (c : Char) : Nat :=
  c.utf8Size * stateSize

namespace CharClass

/-- There is no character beyond the first 128 in the class, to be seen from its form. -/
def isAscii : CharClass → Bool
  | nothing => true
  | range _ hi => hi.toNat < 0x80
  | digit => false
  | space => false
  | word => false
  | property set => set.ranges.all fun (_, hi) => hi < 0x80
  | union a b => a.isAscii && b.isAscii
  | inter a b => a.isAscii || b.isAscii
  | diff a _ => a.isAscii
  | symmDiff a b => a.isAscii && b.isAscii
  | compl _ => false
  | ignoringCase a => a.isAscii && !(['K', 'k', 'S', 's'].any a.contains)
  | ignoringAsciiCase a => a.isAscii

/-- The number of runs of neighbours among the first 128 characters. -/
def asciiRuns (cls : CharClass) : Nat :=
  let has (n : Nat) : Bool := cls.contains (Char.ofNat n)
  (List.range 0x80).countP fun n => has n && !(0 < n && has (n - 1))

/-- The states for the bytes of a class. -/
def bytesSize : CharClass → Nat
  | nothing => 0
  | range lo hi =>
    if hi.toNat < 0x80 then stateSize + choiceSize
    else if lo = hi then charSize lo + choiceSize
    else charSize lo + charSize hi + 2 * choiceSize
  | digit => 5060
  | space => 616
  | word => 49893
  | property set => rangeSize * set.ranges.length
  | union a b => a.bytesSize + b.bytesSize
  | inter a b => Nat.max a.bytesSize b.bytesSize
  | diff a b => Nat.max a.bytesSize b.bytesSize
  | symmDiff a b => a.bytesSize + b.bytesSize
  | compl a => Nat.max a.bytesSize (900 + choiceSize * 9)
  | ignoringCase a => a.bytesSize
  | ignoringAsciiCase a => a.bytesSize

/-- The size of a class. -/
def size (cls : CharClass) : Nat :=
  match cls with
  | range lo hi =>
    if lo = hi then charSize lo
    else if hi.toNat < 0x80 then 2 * stateSize + edgeSize
    else 2 * stateSize + cls.bytesSize
  | cls =>
    2 * stateSize + if cls.isAscii then edgeSize * cls.asciiRuns else cls.bytesSize

end CharClass

namespace Expr

/-- No match has any characters. -/
def isEmptyOnly : Expr → Bool
  | empty => true
  | chars _ => false
  | assertion _ => true
  | concat a b => a.isEmptyOnly && b.isEmptyOnly
  | alternation a b => a.isEmptyOnly && b.isEmptyOnly
  | repetition a _ max => a.isEmptyOnly || max == some 0
  | capture a => a.isEmptyOnly

/-- The size of a pattern. What matches the empty text only needs no second copy. -/
def size : Expr → Nat
  | empty => stateSize
  | chars cls => cls.size
  | assertion _ => stateSize
  | concat a b => a.size + b.size
  | alternation a b => a.size + b.size + 2 * (stateSize + choiceSize)
  | repetition a min max =>
    let choice := stateSize + 2 * choiceSize
    if a.isEmptyOnly then a.size + stateSize + choice
    else
      match max with
      | none => Nat.max 1 min * a.size + choice
      | some max =>
        let optional := max - min
        max * a.size + optional * choice + if max = min && 0 < min then 0 else stateSize
  | capture a => a.size + 2 * stateSize

end Expr

end Tagdown.Regex
