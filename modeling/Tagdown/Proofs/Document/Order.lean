import Tagdown.Proofs.Document.WellFormed
import Tagdown.Proofs.LevelOrder

/-!
# Ways through elements, and document order

A node may be reached from another one through elements only (`Tree.Reaches`), which is how a
document is read: what stands below a text or a comment does not show. In a document whose texts
and comments have no children these are all elements below the node
(`WellFormed.reaches_root_iff`).

`Tree.Before` is the order in which a reader meets the nodes of a document.
-/

namespace Tagdown.Tree

variable {t : Tree} {s p x y : NodeId}

/-- The way down from `s` to `x` leads through elements only, and `x` is one itself. -/
def Reaches (t : Tree) : NodeId → NodeId → Prop :=
  Relation.TransGen fun p x => t.parent x = some p ∧ t.isElement x = true

/-- `x` comes before `y` in the document. -/
inductive Before (t : Tree) (x y : NodeId) : Prop where
  /-- what stands below `x` comes after it -/
  | above (below : t.Below x y)
  /-- two siblings in this order, and all that is below them -/
  | beside {p a b : NodeId} (siblings : [a, b].Sublist (t.children p)) (hx : t.Within a x)
      (hy : t.Within b y)

/-- What is reached through elements is below. -/
theorem Reaches.below (h : t.Reaches s x) : t.Below s x :=
  Relation.TransGen.mono (fun _ _ hstep => hstep.1) s x h

/-- Only elements are reached. -/
theorem Reaches.isElement (h : t.Reaches s x) : t.isElement x = true := by
  obtain ⟨p, -, hp⟩ := Relation.TransGen.tail'_iff.1 h
  exact hp.2

/-- The element children are reached by one step, -/
theorem reaches_of_mem (h : t.IsForest) (hx : x ∈ t.elementChildren s) : t.Reaches s x :=
  Relation.TransGen.single ((mem_elementChildren h).1 hx)

/-- and those of what is reached by one more. -/
theorem Reaches.step (h : t.IsForest) (hp : t.Reaches s p) (hx : x ∈ t.elementChildren p) :
    t.Reaches s x :=
  Relation.TransGen.tail hp ((mem_elementChildren h).1 hx)

/-- Where texts and comments have no children, no element below the root is missed. -/
theorem WellFormed.reaches_root_iff (h : t.WellFormed) (bare : t.LeavesBare root) :
    t.Reaches root x ↔ t.Below root x ∧ t.isElement x = true := by
  refine ⟨fun hx => ⟨hx.below, hx.isElement⟩, ?_⟩
  rintro ⟨hx, helement⟩
  induction hx with
  | single hrx => exact Relation.TransGen.single ⟨hrx, helement⟩
  | @tail p x hp hpx ih =>
    -- a node that has `x` below it is no text and no comment
    have hne : t.children p ≠ [] := List.ne_nil_of_mem (h.forest.mem_iff.2 hpx)
    refine Relation.TransGen.tail (ih ?_) ⟨hpx, helement⟩
    rw [isElement]
    rcases hlabel : t.label p with _ | ⟨tag, attributes⟩ | _ | _
    · exact absurd hlabel (h.label_ne_document hp)
    · rfl
    · exact absurd (bare p hp (Or.inl hlabel)) hne
    · exact absurd (bare p hp (Or.inr hlabel)) hne

/-- Siblings stand in the order of the document. -/
theorem pairwise_before_children (t : Tree) (p : NodeId) : (t.children p).Pairwise t.Before :=
  List.pairwise_iff_forall_sublist.2 fun hab =>
    .beside hab (t.within_self _) (t.within_self _)

end Tagdown.Tree
