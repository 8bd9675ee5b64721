import Tagdown.Document.Tree

/-!
# Elements level by level

`Tree.levelOrder` lists the elements below a node breadth first: all of one depth before any
of the next, and in document order within a depth. Read from the back, it puts every element
after all the elements below it.
-/

namespace Tagdown.Tree

/-- The children of a node that are elements. -/
def elementChildren (t : Tree) (id : NodeId) : List NodeId :=
  (t.children id).filter t.isElement

/-- The elements of one level, and those of the levels below it, down to the first that is
empty. -/
def levelsFrom (t : Tree) : Nat → List NodeId → List NodeId
  | 0, _ => []
  | _ + 1, [] => []
  | fuel + 1, level => level ++ t.levelsFrom fuel (level.flatMap t.elementChildren)

/-- The elements below `start`, level by level, without `start` itself. Every level has a node
of its own, so there are no more levels than nodes. -/
def levelOrder (t : Tree) (start : NodeId) : List NodeId :=
  t.levelsFrom t.size (t.elementChildren start)

end Tagdown.Tree
