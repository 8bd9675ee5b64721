/-!
# The arena: nodes by position, and the edits of their links

A document that changes while it is walked lives in one array. A node is named by
its position there (`NodeId`) and knows its neighbours by five optional links (`Links`).
Moving a node only rewires the links around it, so a position stays valid for as long as
the arena does; a node that was taken out keeps its slot and its own subtree.

The edits are `append`, `insertBefore`, `detach`, `replace` and `unwrap`. Each is a short
sequence of updates of single slots (`relink`), and none of them touches a payload.

What the nodes hold is left open (`α`): a parser and a document have payloads of their
own, and share the links.
-/

namespace Tagdown

/-- The position of a node in its arena. -/
structure NodeId where
  /-- the position, counted from zero in order of creation -/
  index : Nat
deriving DecidableEq

/-- The neighbours of a node. A node that was never placed has none. -/
structure Links where
  parent : Option NodeId := none
  firstChild : Option NodeId := none
  lastChild : Option NodeId := none
  previousSibling : Option NodeId := none
  nextSibling : Option NodeId := none
deriving DecidableEq

/-- One place of the arena: what the node holds and where it stands. -/
structure Slot (α : Type) where
  payload : α
  links : Links := {}

/-- All nodes ever made, in order of creation. -/
structure Arena (α : Type) where
  slots : Array (Slot α)

namespace Arena

variable {α : Type}

/-! ## Reading -/

/-- The number of nodes ever made, detached ones included. -/
def size (a : Arena α) : Nat :=
  a.slots.size

/-- The payload of a node, if there is such a node. -/
def payload? (a : Arena α) (id : NodeId) : Option α :=
  a.slots[id.index]?.map Slot.payload

/-- The links of a node; a position outside the arena has none. -/
def links (a : Arena α) (id : NodeId) : Links :=
  (a.slots[id.index]?.map Slot.links).getD {}

/-- The node under which `id` stands. -/
def parent (a : Arena α) (id : NodeId) : Option NodeId :=
  (a.links id).parent

/-- The first of the children of `id`. -/
def firstChild (a : Arena α) (id : NodeId) : Option NodeId :=
  (a.links id).firstChild

/-- The last of the children of `id`. -/
def lastChild (a : Arena α) (id : NodeId) : Option NodeId :=
  (a.links id).lastChild

/-- The sibling right before `id`. -/
def previousSibling (a : Arena α) (id : NodeId) : Option NodeId :=
  (a.links id).previousSibling

/-- The sibling right after `id`. -/
def nextSibling (a : Arena α) (id : NodeId) : Option NodeId :=
  (a.links id).nextSibling

/-- The nodes met from `start` on along the links that `next` follows, at most `fuel` of them. -/
def chain (next : NodeId → Option NodeId) : Nat → Option NodeId → List NodeId
  | 0, _ => []
  | _ + 1, none => []
  | fuel + 1, some id => id :: chain next fuel (next id)

/-- The children of a node in order. A chain of siblings that does not repeat itself is
no longer than the arena, so the bound cuts nothing off. -/
def children (a : Arena α) (id : NodeId) : List NodeId :=
  chain a.nextSibling a.size (a.firstChild id)

/-- The siblings before a node, nearest first. -/
def precedingSiblings (a : Arena α) (id : NodeId) : List NodeId :=
  chain a.previousSibling a.size (a.previousSibling id)

/-! ## Making and changing single slots -/

/-- Add a node that stands nowhere yet. -/
def push (a : Arena α) (payload : α) : Arena α × NodeId :=
  let id : NodeId := ⟨a.size⟩
  (⟨a.slots.push { payload }⟩, id)

/-- Change what a node holds. -/
def modifyPayload (a : Arena α) (id : NodeId) (f : α → α) : Arena α :=
  ⟨a.slots.modify id.index fun slot => { slot with payload := f slot.payload }⟩

/-- Change the links of one node. -/
def relink (a : Arena α) (id : NodeId) (f : Links → Links) : Arena α :=
  ⟨a.slots.modify id.index fun slot => { slot with links := f slot.links }⟩

/-- Change the links of a node that may be absent. -/
def relink? (a : Arena α) (id? : Option NodeId) (f : Links → Links) : Arena α :=
  match id? with
  | some id => a.relink id f
  | none => a

/-! ## The edits -/

/-- Take a node out from between its neighbours. Its own subtree stays with it. -/
def detach (a : Arena α) (id : NodeId) : Arena α :=
  let ⟨parent, _, _, previous, next⟩ := a.links id
  let a := match previous with
    | some previous => a.relink previous ({ · with nextSibling := next })
    | none => a.relink? parent ({ · with firstChild := next })
  let a := match next with
    | some next => a.relink next ({ · with previousSibling := previous })
    | none => a.relink? parent ({ · with lastChild := previous })
  a.relink id ({ · with parent := none, previousSibling := none, nextSibling := none })

/-- Make `child` the last child of `parent`, taking it out of its old place first. -/
def append (a : Arena α) (parent child : NodeId) : Arena α :=
  let a := a.detach child
  let last := a.lastChild parent
  let a := a.relink child
    ({ · with parent := some parent, previousSibling := last, nextSibling := none })
  let a := match last with
    | some last => a.relink last ({ · with nextSibling := some child })
    | none => a.relink parent ({ · with firstChild := some child })
  a.relink parent ({ · with lastChild := some child })

/-- Put `node` right before `reference`. The node leaves its old place even when
`reference` has no parent and so offers no new one; before itself it stays where it is. -/
def insertBefore (a : Arena α) (reference node : NodeId) : Arena α :=
  if reference = node then a
  else
    let a := a.detach node
    match a.parent reference with
    | none => a
    | some parent =>
      let previous := a.previousSibling reference
      let a := a.relink node
        ({ · with
          parent := some parent, previousSibling := previous, nextSibling := some reference })
      let a := a.relink reference ({ · with previousSibling := some node })
      match previous with
      | some previous => a.relink previous ({ · with nextSibling := some node })
      | none => a.relink parent ({ · with firstChild := some node })

/-- Put `new` into the place of `old`, which is taken out. Nothing happens when `old`
stands nowhere or is `new` itself. -/
def replace (a : Arena α) (old new : NodeId) : Arena α :=
  if old = new ∨ (a.parent old).isNone then a
  else (a.insertBefore old new).detach old

/-- Put the children of a node into its place, and take the node out. Nothing happens when
the node stands nowhere. -/
def unwrap (a : Arena α) (id : NodeId) : Arena α :=
  if (a.parent id).isNone then a
  else ((a.children id).foldl (·.insertBefore id ·) a).detach id

end Arena

end Tagdown
