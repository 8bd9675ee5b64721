import Tagdown.Arena.Basic

/-!
# Trees read off an arena, and the check of its links

`Rose` is an ordered tree in the usual sense, and `Arena.subtree` is the tree of positions
below a node. Whoever only reads a document works on this view, by recursion on its shape,
and never follows a link.

`Arena.isConsistent` is for arenas of any links at all: it answers whether what can be
reached from the first node is a tree whose links agree with each other.
-/

namespace Tagdown

/-- An ordered tree of any width, with a label at each node. -/
inductive Rose (α : Type) where
  | node (label : α) (children : List (Rose α))

namespace Rose

variable {α β : Type}

/-- The label at the top. -/
def label : Rose α → α
  | node a _ => a

/-- The trees right below the top. -/
def children : Rose α → List (Rose α)
  | node _ ts => ts

mutual

/-- The same shape with every label changed by `f`. -/
def map (f : α → β) : Rose α → Rose β
  | node a ts => node (f a) (mapAll f ts)

/-- `map` on each tree of a list. -/
def mapAll (f : α → β) : List (Rose α) → List (Rose β)
  | [] => []
  | t :: ts => map f t :: mapAll f ts

end

theorem mapAll_eq_map (f : α → β) (ts : List (Rose α)) : mapAll f ts = ts.map (map f) := by
  induction ts with
  | nil => rw [mapAll, List.map_nil]
  | cons t ts ih => rw [mapAll, List.map_cons, ih]

@[simp] theorem label_map (f : α → β) (t : Rose α) : (t.map f).label = f t.label := by
  cases t
  rw [map, label, label]

mutual

/-- Every label with its depth, a node before what is below it, when the top is at `depth`. -/
def preorder (depth : Nat) : Rose α → List (Nat × α)
  | node a ts => (depth, a) :: preorderAll (depth + 1) ts

/-- `preorder` on each tree of a list, one after the other. -/
def preorderAll (depth : Nat) : List (Rose α) → List (Nat × α)
  | [] => []
  | t :: ts => preorder depth t ++ preorderAll depth ts

end

end Rose

namespace Arena

variable {α : Type}

/-- The tree of positions below `id`, cut off `fuel` levels down. -/
def subtreeWithin (a : Arena α) : Nat → NodeId → Rose NodeId
  | 0, id => .node id []
  | fuel + 1, id => .node id ((a.children id).map (a.subtreeWithin fuel))

/-- The tree of positions below `id`. No path without repetition has more nodes than the
arena, so the bound cuts nothing off. -/
def subtree (a : Arena α) (id : NodeId) : Rose NodeId :=
  a.subtreeWithin a.size id

/-! ## Consistency -/

/-- Follow the sibling links from `next` and collect the nodes, as long as each of them
names `id` as its parent and the node before it as its previous sibling. The answer also
requires that the chain ends in the last child of `id`. -/
def checkedChain (a : Arena α) (id : NodeId) :
    Nat → Option NodeId → Option NodeId → Option (List NodeId)
  | _, previous, none => if a.lastChild id = previous then some [] else none
  | 0, _, some _ => none
  | fuel + 1, previous, some current =>
    if a.parent current = some id ∧ a.previousSibling current = previous then
      (checkedChain a id fuel (some current) (a.nextSibling current)).map (current :: ·)
    else none

/-- The children of `id` if the links around them agree. A chain that comes back to a node
has two different nodes before it, which the check refuses, so the bound is never met. -/
def checkedChildren (a : Arena α) (id : NodeId) : Option (List NodeId) :=
  a.checkedChain id a.size none (a.firstChild id)

/-- Visit the pending nodes and all that is below them; a second visit of a node is a fault. -/
def consistentFrom (a : Arena α) : Nat → List NodeId → List NodeId → Bool
  | _, [], _ => true
  | 0, _ :: _, _ => false
  | fuel + 1, id :: pending, seen =>
    if id ∈ seen then false
    else
      match a.checkedChildren id with
      | none => false
      | some children => consistentFrom a fuel (children ++ pending) (id :: seen)

/-- True when the nodes reached from the first one form a tree: each has one parent, and the
sibling links agree in both directions. Each round of the visit marks one node more, so it
needs no more rounds than there are nodes, and one to find a repetition. -/
def isConsistent (a : Arena α) : Bool :=
  a.consistentFrom (a.size + 1) [⟨0⟩] []

end Arena

end Tagdown
