import Tagdown.Proofs.Arena.ChildLists

/-!
# Edits at a node that stands nowhere

Three of the edits have a target: `insertBefore`, `replace` and `unwrap` put something into its
place, or next to it. A target without a parent has no place. To replace or to unwrap it changes
nothing at all, wherever the other node stands, be it below the target itself. To insert a node
before it is another matter: the node leaves its old place first, and then there is no new one. So
the insertion comes to no more than to take the node out, and it changes nothing just if that node
stands nowhere either (`edits_at_orphan`).
-/

namespace Tagdown.Arena

variable {α : Type} {a : Arena α}

/-- The change of a slot that has the changed links already. -/
theorem relink_eq_self {id : NodeId} {f : Links → Links} (h : f (a.links id) = a.links id) :
    a.relink id f = a := by
  refine congrArg Arena.mk (Array.ext_getElem? fun i => ?_)
  rw [Array.getElem?_modify]
  split
  · rename_i hi
    subst hi
    rw [links] at h
    cases hslot : a.slots[id.index]? with
    | none => rfl
    | some slot =>
      rw [hslot] at h
      exact congrArg some (congrArg (Slot.mk slot.payload) h)
  · rfl

/-- To replace a node without a parent changes nothing. -/
theorem replace_of_orphan {r : NodeId} (hr : a.parent r = none) (n : NodeId) :
    a.replace r n = a := by
  rw [replace, if_pos (Or.inr (Option.isNone_iff_eq_none.2 hr))]

/-- To unwrap a node without a parent changes nothing. -/
theorem unwrap_of_orphan {r : NodeId} (hr : a.parent r = none) : a.unwrap r = a := by
  rw [unwrap, if_pos (Option.isNone_iff_eq_none.2 hr)]

namespace IsForest

variable (h : a.IsForest)
include h

/-- A node that stands nowhere is not taken out once more. -/
theorem detach_of_orphan {x : NodeId} (hx : a.parent x = none) : a.detach x = a := by
  obtain ⟨hprevious, hnext⟩ := h.orphan hx
  rcases hlinks : a.links x with ⟨parent, first, last, previous, next⟩
  rw [Arena.parent, hlinks] at hx
  rw [previousSibling, hlinks] at hprevious
  rw [nextSibling, hlinks] at hnext
  obtain rfl : parent = none := hx
  obtain rfl : previous = none := hprevious
  obtain rfl : next = none := hnext
  -- there is no neighbour to be changed, and the node itself has these links already
  rw [Arena.detach, hlinks]
  show a.relink x ({ · with parent := none, previousSibling := none, nextSibling := none }) = a
  exact relink_eq_self (by rw [hlinks])

/-- To insert a node before one without a parent is to take it out. -/
theorem insertBefore_of_orphan {r : NodeId} (hr : a.parent r = none) (n : NodeId) :
    a.insertBefore r n = a.detach n := by
  rcases eq_or_ne r n with rfl | hne
  · rw [Arena.insertBefore, if_pos rfl, h.detach_of_orphan hr]
  · have hr' : (a.detach n).parent r = none := by
      rw [h.parent_detach, if_neg hne, hr]
    rw [Arena.insertBefore, if_neg hne]
    simp only [hr']

theorem links_detach_eq_iff (x : NodeId) :
    (∀ y, (a.detach x).links y = a.links y) ↔ a.parent x = none := by
  constructor
  · intro same
    rw [← h.parent_detach_self x, Arena.parent, Arena.parent, same]
  · intro hx y
    rw [h.detach_of_orphan hx]

end IsForest

/-- **Edits at a node without a parent**: to replace it and to unwrap it leaves the arena as it
is. To insert a node before it takes that node out of its place, so every link stays just if the
node has no parent itself. -/
theorem edits_at_orphan (h : a.IsForest) {r : NodeId} (hr : a.parent r = none) (n : NodeId) :
    a.replace r n = a ∧ a.unwrap r = a ∧ a.insertBefore r n = a.detach n ∧
      ((∀ x, (a.insertBefore r n).links x = a.links x) ↔ a.parent n = none) := by
  have inserted := h.insertBefore_of_orphan hr n
  refine ⟨replace_of_orphan hr n, unwrap_of_orphan hr, inserted, ?_⟩
  rw [inserted]
  exact h.links_detach_eq_iff n

/-- One node below another one, and three that stand nowhere. -/
def couple : Arena Unit :=
  strangers.append ⟨0⟩ ⟨1⟩

theorem isForest_couple : couple.IsForest :=
  isForest_strangers.append_of_avoids (by decide) (by decide) (by decide) (by decide)

theorem edits_at_orphan_couple :
    couple.IsForest ∧ couple.parent ⟨2⟩ = none ∧ couple.parent ⟨1⟩ = some ⟨0⟩ ∧
      couple.replace ⟨2⟩ ⟨1⟩ = couple ∧ couple.unwrap ⟨2⟩ = couple ∧
      couple.insertBefore ⟨2⟩ ⟨1⟩ = couple.detach ⟨1⟩ := by
  have alone : couple.parent ⟨2⟩ = none := by decide
  obtain ⟨replaced, unwrapped, inserted, -⟩ := edits_at_orphan isForest_couple alone ⟨1⟩
  exact ⟨isForest_couple, alone, by decide, replaced, unwrapped, inserted⟩

/-- A node that is to be put before one without a parent does not stay where it is. -/
theorem links_insertBefore_couple_ne :
    couple.IsForest ∧ couple.parent ⟨2⟩ = none ∧
      ¬ ∀ x, (couple.insertBefore ⟨2⟩ ⟨1⟩).links x = couple.links x := by
  refine ⟨isForest_couple, by decide, fun same => ?_⟩
  exact absurd (same ⟨1⟩) (by decide)

end Tagdown.Arena
