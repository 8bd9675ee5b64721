import Tagdown.Arena.Basic

/-!
# What the edits of an arena keep

Every edit is a sequence of changes of single slots, and `links_relink` says what one such
change does. From it follows what all edits have in common: they make no node (`size_detach`
and its like) and touch no payload (`payload?_detach` and its like).

To make a node changes the links of none: the new one has no neighbours, and neither has a
position outside the arena (`links_push`).
-/

namespace Tagdown.Arena

variable {α : Type}

/-! ## Single slots -/

/-- The new node stands at the end, and its identifier is the size before. -/
@[simp] theorem size_push (a : Arena α) (payload : α) : (a.push payload).1.size = a.size + 1 := by
  simp [push, size]

@[simp] theorem links_push (a : Arena α) (payload : α) (id : NodeId) :
    (a.push payload).1.links id = a.links id := by
  simp only [push, links, Array.getElem?_push]
  split
  · rename_i h
    simp [h]
  · rfl

/-- The new node holds what it was made with, and all others hold what they did. -/
theorem payload?_push (a : Arena α) (payload : α) (id : NodeId) :
    (a.push payload).1.payload? id = if id.index = a.size then some payload else a.payload? id := by
  simp only [push, payload?, Array.getElem?_push, size]
  split <;> simp [*]

@[simp] theorem size_modifyPayload (a : Arena α) (id : NodeId) (f : α → α) :
    (a.modifyPayload id f).size = a.size := by
  simp [modifyPayload, size]

/-- What a node holds and where it stands are changed apart. -/
@[simp] theorem links_modifyPayload (a : Arena α) (id : NodeId) (f : α → α) (x : NodeId) :
    (a.modifyPayload id f).links x = a.links x := by
  simp only [modifyPayload, links, Array.getElem?_modify]
  split <;> simp [Function.comp_def]

/-- A node outside of the arena stays outside: there is nothing to apply the change to. -/
theorem payload?_modifyPayload (a : Arena α) (id : NodeId) (f : α → α) (x : NodeId) :
    (a.modifyPayload id f).payload? x = if x = id then (a.payload? x).map f else a.payload? x := by
  obtain ⟨i⟩ := id
  obtain ⟨j⟩ := x
  simp only [modifyPayload, payload?, Array.getElem?_modify, NodeId.mk.injEq, eq_comm (a := i)]
  split <;> simp [Function.comp_def]

@[simp] theorem size_relink (a : Arena α) (id : NodeId) (f : Links → Links) :
    (a.relink id f).size = a.size := by
  simp [relink, size]

/-- A change of one slot: the node has the changed links, and all others have theirs. -/
theorem links_relink (a : Arena α) {id : NodeId} (h : id.index < a.size) (f : Links → Links)
    (x : NodeId) :
    (a.relink id f).links x = if x = id then f (a.links id) else a.links x := by
  obtain ⟨i⟩ := id
  obtain ⟨j⟩ := x
  simp only [size] at h
  simp only [relink, links, Array.getElem?_modify, NodeId.mk.injEq, eq_comm (a := i)]
  split
  · rename_i hji
    subst hji
    simp [h]
  · rfl

/-- From the other side, a change of links leaves what the nodes hold. -/
@[simp] theorem payload?_relink (a : Arena α) (id : NodeId) (f : Links → Links) (x : NodeId) :
    (a.relink id f).payload? x = a.payload? x := by
  simp only [relink, payload?, Array.getElem?_modify]
  split <;> simp [Function.comp_def]

@[simp] theorem size_relink? (a : Arena α) (id? : Option NodeId) (f : Links → Links) :
    (a.relink? id? f).size = a.size := by
  cases id? <;> simp [relink?]

@[simp] theorem payload?_relink? (a : Arena α) (id? : Option NodeId) (f : Links → Links)
    (x : NodeId) : (a.relink? id? f).payload? x = a.payload? x := by
  cases id? <;> simp [relink?]

/-! ## The edits -/

/-- Nodes are taken out of the tree and not out of the arena. -/
@[simp] theorem size_detach (a : Arena α) (id : NodeId) : (a.detach id).size = a.size := by
  simp only [detach]
  split <;> split <;> simp

@[simp] theorem payload?_detach (a : Arena α) (id x : NodeId) :
    (a.detach id).payload? x = a.payload? x := by
  simp only [detach]
  split <;> split <;> simp

@[simp] theorem size_append (a : Arena α) (parent child : NodeId) :
    (a.append parent child).size = a.size := by
  simp only [append]
  split <;> simp

@[simp] theorem payload?_append (a : Arena α) (parent child x : NodeId) :
    (a.append parent child).payload? x = a.payload? x := by
  simp only [append]
  split <;> simp

/-- The edit can stop at three places, and no node is made before any of them. -/
@[simp] theorem size_insertBefore (a : Arena α) (reference node : NodeId) :
    (a.insertBefore reference node).size = a.size := by
  simp only [insertBefore]
  split
  · rfl
  · split
    · simp
    · split <;> simp

@[simp] theorem payload?_insertBefore (a : Arena α) (reference node x : NodeId) :
    (a.insertBefore reference node).payload? x = a.payload? x := by
  simp only [insertBefore]
  split
  · rfl
  · split
    · simp
    · split <;> simp

@[simp] theorem size_replace (a : Arena α) (old new : NodeId) :
    (a.replace old new).size = a.size := by
  simp only [replace]
  split <;> simp

@[simp] theorem payload?_replace (a : Arena α) (old new x : NodeId) :
    (a.replace old new).payload? x = a.payload? x := by
  simp only [replace]
  split <;> simp

/-- Moving nodes to the place before another one, one after the other, makes no node. -/
theorem size_foldl_insertBefore (a : Arena α) (id : NodeId) (ids : List NodeId) :
    (ids.foldl (·.insertBefore id ·) a).size = a.size := by
  induction ids generalizing a with
  | nil => rfl
  | cons x ids ih => simp [ih]

/-- Nor does it change what any of them holds. -/
theorem payload?_foldl_insertBefore (a : Arena α) (id : NodeId) (ids : List NodeId) (x : NodeId) :
    (ids.foldl (·.insertBefore id ·) a).payload? x = a.payload? x := by
  induction ids generalizing a with
  | nil => rfl
  | cons y ids ih => simp [ih]

@[simp] theorem size_unwrap (a : Arena α) (id : NodeId) : (a.unwrap id).size = a.size := by
  simp only [unwrap]
  split <;> simp [size_foldl_insertBefore]

@[simp] theorem payload?_unwrap (a : Arena α) (id x : NodeId) :
    (a.unwrap id).payload? x = a.payload? x := by
  simp only [unwrap]
  split <;> simp [payload?_foldl_insertBefore]

end Tagdown.Arena
