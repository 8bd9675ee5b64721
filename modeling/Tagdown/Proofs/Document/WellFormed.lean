import Tagdown.Document.Tree
import Tagdown.Proofs.Arena.Edits

/-!
# Well-formed documents

The arena of a document may hold any links and any nodes. `Tree.WellFormed` is what every
document keeps to that is made by the edits: its links are those of a forest, and no node but
the first one is a document. Nothing is asked of what stands below the root, so that a text
may have children. Where this matters, `Tree.LeavesBare` excludes it.

An edit of the links changes no node, so each edit keeps a document well-formed as soon as it
keeps the forest (`WellFormed.of_frame`).
-/

namespace Tagdown.Tree

/-- The links are those of a forest, and the root and nothing else is a document. -/
structure WellFormed (t : Tree) : Prop where
  forest : t.IsForest
  root_lt : root.index < t.size
  label_eq_document : ∀ {id : NodeId}, id.index < t.size → (t.label id = .document ↔ id = root)

/-- No text and no comment below `id` has a child. -/
def LeavesBare (t : Tree) (id : NodeId) : Prop :=
  ∀ x, t.Below id x → t.label x = .text ∨ t.label x = .comment → t.children x = []

/-- The nodes of the arena are all that have to be looked at. -/
theorem leavesBare_of_forall_lt {t : Tree} (id : NodeId)
    (h : ∀ i < t.size, t.label ⟨i⟩ = .text ∨ t.label ⟨i⟩ = .comment → t.children ⟨i⟩ = []) :
    t.LeavesBare id :=
  fun x hx => h x.index hx.index_lt

/-! ## What the nodes hold

The edits of the links change no node, and a new value changes one. -/

@[simp] theorem node_detach (t : Tree) (id x : NodeId) : node (t.detach id) x = t.node x := by
  rw [node, node, Arena.payload?_detach]

@[simp] theorem node_append (t : Tree) (p c x : NodeId) : node (t.append p c) x = t.node x := by
  rw [node, node, Arena.payload?_append]

@[simp] theorem node_insertBefore (t : Tree) (r n x : NodeId) :
    node (t.insertBefore r n) x = t.node x := by
  rw [node, node, Arena.payload?_insertBefore]

@[simp] theorem node_replace (t : Tree) (o n x : NodeId) : node (t.replace o n) x = t.node x := by
  rw [node, node, Arena.payload?_replace]

@[simp] theorem node_unwrap (t : Tree) (id x : NodeId) : node (t.unwrap id) x = t.node x := by
  rw [node, node, Arena.payload?_unwrap]

theorem node_push (t : Tree) (n : Node) (x : NodeId) :
    node (t.push n).1 x = if x.index = t.size then n else t.node x := by
  rw [node, node, Arena.payload?_push]
  split <;> rfl

/-- A node that holds the same is of the same kind. -/
theorem label_of_node_eq {t u : Tree} {x : NodeId} (h : u.node x = t.node x) :
    u.label x = t.label x := by
  rw [label, label, h]

@[simp] theorem label_setValue (t : Tree) (id x : NodeId) (value : String) :
    (t.setValue id value).label x = t.label x := by
  rw [label, label, node, node, setValue, Arena.payload?_modifyPayload]
  split
  · cases t.payload? x <;> rfl
  · rfl

/-- A text holds the value that it is given, and what it held otherwise. -/
theorem node_setValue_self {t : Tree} {id : NodeId} (htext : t.label id = .text) (value : String) :
    node (t.setValue id value) id = { t.node id with value := value } := by
  rw [label, node] at htext
  rw [node, node, setValue, Arena.payload?_modifyPayload, if_pos rfl]
  cases hpayload : t.payload? id with
  | none => rw [hpayload] at htext; cases htext
  | some n => rfl

/-! ## The edits keep documents well-formed -/

/-- What changes no kind of a node needs to keep the forest only. -/
theorem WellFormed.of_frame {t u : Tree} (h : t.WellFormed) (forest : u.IsForest)
    (size : u.size = t.size) (labels : ∀ x, u.label x = t.label x) : u.WellFormed := by
  constructor
  · exact forest
  · rw [size]
    exact h.root_lt
  · intro id hid
    rw [size] at hid
    rw [labels]
    exact h.label_eq_document hid

/-- A new node stands nowhere, so all that is asked of it is that it is no document. -/
theorem WellFormed.push {t : Tree} (h : t.WellFormed) {n : Node} (hn : n.label ≠ .document) :
    WellFormed (t.push n).1 := by
  constructor
  · exact h.forest.push n
  · rw [Arena.size_push]
    exact Nat.lt_succ_of_lt h.root_lt
  · intro id hid
    rw [Arena.size_push] at hid
    rw [label, node_push]
    split
    · rename_i hnew
      refine ⟨fun hlabel => absurd hlabel hn, ?_⟩
      rintro rfl
      exact absurd hnew (Nat.ne_of_lt h.root_lt)
    · exact h.label_eq_document (by omega)

/-- A document begins as its root, with nothing linked to it. -/
theorem wellFormed_empty : Tree.empty.WellFormed := by
  constructor
  · exact Arena.isForest_of_links_eq_empty (by rintro ⟨_ | i⟩ <;> rfl)
  · exact Nat.one_pos
  · rintro ⟨_ | i⟩ hid
    · exact ⟨fun _ => rfl, fun _ => rfl⟩
    · exact absurd hid (by simp [Tree.empty, Arena.size])

/-- Below any node there are no documents. -/
theorem WellFormed.label_ne_document {t : Tree} (h : t.WellFormed) {x : NodeId}
    (hx : t.Below root x) : t.label x ≠ .document := by
  rw [Ne, h.label_eq_document hx.index_lt]
  rintro rfl
  exact h.forest.acyclic root hx

end Tagdown.Tree
