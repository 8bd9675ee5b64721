import Tagdown.Proofs.Arena.Forest
import Tagdown.Arena.Subtree

/-!
# Heights

A walk down an arena is bounded by the number of its nodes, since no way down a forest meets a
node twice. `HeightLe n id` says that no way down from `id` has more than `n` nodes, and
`IsForest.heightLe_size` that the size of the arena is such a bound. So a walk that is given as
much loses nothing: `IsForest.subtree_eq` opens the tree below a node without any bound.
-/

namespace Tagdown.Arena

variable {α : Type} {a b : Arena α}

/-- No way down from the node has more than `n` nodes, counting itself. -/
def HeightLe (a : Arena α) : Nat → NodeId → Prop
  | 0, _ => False
  | n + 1, id => ∀ c ∈ a.children id, a.HeightLe n c

/-- To take children away makes no way down longer. -/
theorem HeightLe.of_subset {n : Nat} {id : NodeId} (h : a.HeightLe n id)
    (sub : ∀ p, b.children p ⊆ a.children p) : b.HeightLe n id := by
  induction n generalizing id with
  | zero => exact h.elim
  | succ n ih => exact fun c hc => ih (h c (sub id hc))

/-- A way down to `id` through all of `above`, and the bound that is left for the rest of it. -/
theorem IsForest.heightLe_of_above (h : a.IsForest) :
    ∀ (n : Nat) (above : List NodeId) (id : NodeId), above.Nodup → id.index < a.size →
      (∀ p ∈ above, a.Below p id) → above.length + n = a.size → a.HeightLe n id := by
  intro n
  induction n with
  | zero =>
    -- `above` are all nodes that there are, and `id` is not one of them
    intro above id hnodup hid habove hlen
    have hfresh : id ∉ above := fun hmem => h.acyclic id (habove id hmem)
    have hbound := length_le_size (a := a) (List.nodup_cons.2 ⟨hfresh, hnodup⟩) (by
      intro p hp
      rcases List.mem_cons.1 hp with rfl | hp
      · exact hid
      · obtain ⟨c, hc, -⟩ := (habove p hp).cases_child
        exact h.parent_lt (h.mem_iff.2 hc))
    rw [List.length_cons] at hbound
    omega
  | succ n ih =>
    intro above id hnodup hid habove hlen c hc
    have hfresh : id ∉ above := fun hmem => h.acyclic id (habove id hmem)
    refine ih (id :: above) c (List.nodup_cons.2 ⟨hfresh, hnodup⟩) (h.child_lt hc) ?_ ?_
    · intro p hp
      rcases List.mem_cons.1 hp with rfl | hp
      · exact h.below_of_mem hc
      · exact (habove p hp).trans (h.below_of_mem hc)
    · rw [List.length_cons]
      omega

/-- **The arena is high enough**: no way down has more nodes than there are. This is what makes the
size of the arena enough fuel for the passes and for printing. -/
theorem IsForest.heightLe_size (h : a.IsForest) {id : NodeId} (hid : id.index < a.size) :
    a.HeightLe a.size id :=
  h.heightLe_of_above a.size [] id List.nodup_nil hid (by simp) (by simp)

/-- **Induction from below**: what holds of a node as soon as it holds of its children holds of
every node. It stands on the bound for the height, so that the proofs that use it see no fuel. -/
theorem IsForest.induction_below (h : a.IsForest) {motive : NodeId → Prop}
    (step : ∀ x, (∀ c ∈ a.children x, motive c) → motive x) (x : NodeId) : motive x := by
  have bounded : ∀ (n : Nat) (x : NodeId), a.HeightLe n x → motive x := by
    intro n
    induction n with
    | zero => exact fun _ hx => hx.elim
    | succ n ih => exact fun x hx => step x fun c hc => ih c (hx c hc)
  refine step x fun c hc => bounded a.size c ?_
  exact h.heightLe_size (h.child_lt hc)

/-! ## The tree below a node

`subtree` walks down with the size of the arena as its bound. By what was said of heights the
bound is never reached, and so the tree below a node is the node over the trees below its
children. -/

@[simp] theorem label_subtree (a : Arena α) (id : NodeId) : (a.subtree id).label = id := by
  rw [subtree]
  cases a.size <;> rfl

/-- A bound that is high enough may be lowered to any other that is. -/
theorem subtreeWithin_eq {m n : Nat} {id : NodeId} (hm : a.HeightLe m id) (hn : a.HeightLe n id) :
    a.subtreeWithin m id = a.subtreeWithin n id := by
  induction m generalizing n id with
  | zero => exact hm.elim
  | succ m ih =>
    cases n with
    | zero => exact hn.elim
    | succ n =>
      rw [subtreeWithin, subtreeWithin]
      congr 1
      exact List.map_congr_left fun c hc => ih (hm c hc) (hn c hc)

/-- A node outside the arena has no children. -/
theorem children_eq_nil {id : NodeId} (hid : a.size ≤ id.index) : a.children id = [] := by
  have hfirst : a.firstChild id = none := by
    rw [firstChild, links_eq_empty hid]
  rw [children, hfirst]
  cases a.size <;> rfl

theorem IsForest.subtree_eq (h : a.IsForest) (id : NodeId) :
    a.subtree id = .node id ((a.children id).map a.subtree) := by
  rcases Nat.lt_or_ge id.index a.size with hid | hid
  · have hheight := h.heightLe_size hid
    rw [subtree]
    cases hsize : a.size with
    | zero => omega
    | succ n =>
      rw [subtreeWithin]
      congr 1
      refine List.map_congr_left fun c hc => ?_
      rw [hsize] at hheight
      exact subtreeWithin_eq (hheight c hc) (h.heightLe_size (h.child_lt hc))
  · rw [subtree]
    cases a.size with
    | zero => rw [subtreeWithin, children_eq_nil hid, List.map_nil]
    | succ n => rw [subtreeWithin, children_eq_nil hid, List.map_nil, List.map_nil]

end Tagdown.Arena
