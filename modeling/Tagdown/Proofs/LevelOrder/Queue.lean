import Tagdown.Proofs.Document.History
import Tagdown.Proofs.Document.Order

/-!
# The level order as a visit with a queue

Whoever keeps the elements still to be visited in a queue, and lists each one when its turn comes,
ends up with an empty queue and the level order (`rounds_levelOrder`): while the queue empties from
one level, the next level gathers behind it.

With that goes all that is to be said of the list (`levelOrder_complete`). It has the elements that
are reached through elements and nothing else, each of them once. It goes down by depth and through
each depth in the order of the document. So when it is read from the back, an element comes after
all that is listed below it.
-/

namespace Tagdown.Tree

variable {t : Tree} {s x y : NodeId}

/-! ## What is listed

The tiers end because of the size of the arena, which bounds the number of steps on any way down. -/

/-- No way down has more steps than the arena has nodes, wherever it begins. -/
theorem tier_size_eq_nil (h : t.IsForest) (s : NodeId) {d : Nat} (hd : t.size ≤ d) :
    t.tier s d = [] := by
  rcases Nat.lt_or_ge s.index t.size with hs | hs
  · exact tier_eq_nil h hs hd
  -- nothing stands below what is not in the arena
  · have hchildren : t.elementChildren s = [] := by
      rw [elementChildren, Arena.children_eq_nil hs, List.filter_nil]
    clear hd
    induction d with
    | zero => exact hchildren
    | succ d ih => rw [tier, ih, List.flatMap_nil]

/-- What stands in a tier is reached, by as many steps as the tier is deep; -/
theorem reaches_of_mem_tier (h : t.IsForest) :
    ∀ {d : Nat} {x : NodeId}, x ∈ t.tier s d → t.Reaches s x := by
  intro d
  induction d with
  | zero => exact reaches_of_mem h
  | succ d ih =>
    intro x hx
    obtain ⟨p, hp, hx⟩ := List.mem_flatMap.1 hx
    exact (ih hp).step h hx

/-- and what is reached stands in some tier. -/
theorem Reaches.exists_mem_tier (h : t.IsForest) (hx : t.Reaches s x) : ∃ d, x ∈ t.tier s d := by
  induction hx with
  | single hsx => exact ⟨0, (mem_elementChildren h).2 hsx⟩
  | tail _ hpx ih =>
    obtain ⟨d, hd⟩ := ih
    exact ⟨d + 1, List.mem_flatMap.2 ⟨_, hd, (mem_elementChildren h).2 hpx⟩⟩

/-- The list has what is reached through elements. -/
theorem mem_levelOrder_iff_reaches (h : t.IsForest) : x ∈ t.levelOrder s ↔ t.Reaches s x := by
  rw [mem_levelOrder_iff_tier]
  constructor
  · rintro ⟨d, -, hx⟩
    exact reaches_of_mem_tier h hx
  · intro hx
    obtain ⟨d, hd⟩ := hx.exists_mem_tier h
    refine ⟨d, ?_, hd⟩
    by_contra hsize
    rw [tier_size_eq_nil h s (Nat.le_of_not_lt hsize)] at hd
    cases hd

/-! ## The visit

The visit is a relation between a queue with what was listed and the same one round later, so
that nothing is assumed of how many rounds there are. -/

/-- One round of the visit: the first node of the queue is listed, and its element children go to
the end of the queue. -/
inductive Round (t : Tree) : List NodeId × List NodeId → List NodeId × List NodeId → Prop where
  | visit (id : NodeId) (queue listed : List NodeId) :
    Round t (id :: queue, listed) (queue ++ t.elementChildren id, listed ++ [id])

/-- While one level is listed, the next one comes to stand behind what else was in the queue. -/
theorem rounds_level (t : Tree) (level : List NodeId) :
    ∀ next listed, Relation.ReflTransGen t.Round (level ++ next, listed)
      (next ++ level.flatMap t.elementChildren, listed ++ level) := by
  induction level with
  | nil =>
    intro next listed
    rw [List.nil_append, List.flatMap_nil, List.append_nil, List.append_nil]
  | cons id level ih =>
    intro next listed
    have later := ih (next ++ t.elementChildren id) (listed ++ [id])
    rw [← List.append_assoc, List.append_assoc next, List.append_assoc listed,
      List.singleton_append] at later
    exact Relation.ReflTransGen.head (Round.visit id (level ++ next) listed) later

/-- After the levels above it, a level is all that the queue has. -/
theorem rounds_tier (t : Tree) (s : NodeId) (d : Nat) :
    Relation.ReflTransGen t.Round ([s], [])
      (t.tier s d, s :: (List.range d).flatMap (t.tier s)) := by
  induction d with
  | zero => exact Relation.ReflTransGen.single (Round.visit s [] [])
  | succ d ih =>
    have level := rounds_level t (t.tier s d) [] (s :: (List.range d).flatMap (t.tier s))
    rw [List.append_nil, List.nil_append] at level
    have hlisted : s :: (List.range (d + 1)).flatMap (t.tier s) =
        s :: (List.range d).flatMap (t.tier s) ++ t.tier s d := by
      rw [List.range_succ, List.flatMap_append, List.flatMap_singleton, List.cons_append]
    rw [hlisted]
    exact ih.trans level

/-- **The visit comes to its end**, with the start and then the level order listed. The queue is
empty after as many tiers as there are nodes. -/
theorem rounds_levelOrder (h : t.IsForest) (s : NodeId) :
    Relation.ReflTransGen t.Round ([s], []) ([], s :: t.levelOrder s) := by
  have rounds := rounds_tier t s t.size
  rwa [tier_size_eq_nil h s (Nat.le_refl _), ← levelOrder_eq] at rounds

/-! ## The order of the list

Of two elements in one tier the first is the one whose parent comes first, or which comes first
among its siblings. By induction on the tier this is the order in the document. -/

/-- `x` is less deep than `y`, or as deep and before it in the document. -/
def LevelBefore (t : Tree) (s x y : NodeId) : Prop :=
  ∃ m n, t.AtDepth s m x ∧ t.AtDepth s n y ∧ (m < n ∨ m = n ∧ t.Before x y)

/-- Siblings are in the order of the document. -/
theorem pairwise_before_elementChildren (t : Tree) (p : NodeId) :
    (t.elementChildren p).Pairwise t.Before :=
  (pairwise_before_children t p).sublist List.filter_sublist

/-- The children of two nodes of one depth are in the order of these two. -/
theorem Before.children (h : t.IsForest) {d : Nat} {p q : NodeId} (hpq : t.Before p q)
    (hp : t.AtDepth s d p) (hq : t.AtDepth s d q) (hx : t.parent x = some p)
    (hy : t.parent y = some q) : t.Before x y := by
  cases hpq with
  | above below => exact absurd (h.lt_of_atDepth below hp hq) (Nat.lt_irrefl d)
  | beside siblings hap hbq =>
    exact .beside siblings (hap.trans (Or.inr (Arena.below_of_parent hx)))
      (hbq.trans (Or.inr (Arena.below_of_parent hy)))

/-- By induction on the tier: what is below different nodes is in the order of these nodes. -/
theorem pairwise_before_tier (h : t.IsForest) (s : NodeId) (d : Nat) :
    (t.tier s d).Pairwise t.Before := by
  induction d with
  | zero => exact pairwise_before_elementChildren t s
  | succ d ih =>
    refine List.pairwise_flatMap.2 ⟨fun p _ => pairwise_before_elementChildren t p, ?_⟩
    refine ih.imp_of_mem fun hp hq hpq x hx y hy => ?_
    exact hpq.children h (atDepth_of_mem_tier h hp) (atDepth_of_mem_tier h hq)
      ((mem_elementChildren h).1 hx).1 ((mem_elementChildren h).1 hy).1

/-- Within a tier by the order of the document, and from one tier to a later one by depth. -/
theorem pairwise_levelBefore (h : t.IsForest) (s : NodeId) :
    (t.levelOrder s).Pairwise (t.LevelBefore s) := by
  rw [levelOrder_eq]
  refine List.pairwise_flatMap.2 ⟨fun d _ => ?_, ?_⟩
  · refine (pairwise_before_tier h s d).imp_of_mem fun hx hy hxy => ?_
    exact ⟨_, _, atDepth_of_mem_tier h hx, atDepth_of_mem_tier h hy, Or.inr ⟨rfl, hxy⟩⟩
  · refine List.pairwise_lt_range.imp fun hmn x hx y hy => ?_
    exact ⟨_, _, atDepth_of_mem_tier h hx, atDepth_of_mem_tier h hy,
      Or.inl (Nat.succ_lt_succ hmn)⟩

/-- Read from the back, the list has an element after those below it. -/
theorem sublist_reverse_of_below (h : t.IsForest) (hx : x ∈ t.levelOrder s)
    (hy : y ∈ t.levelOrder s) (hxy : t.Below x y) : [y, x].Sublist (t.levelOrder s).reverse := by
  obtain ⟨done, rest, split⟩ := List.append_of_mem (List.mem_reverse.2 hx)
  obtain ⟨l, r, rfl⟩ := List.append_of_mem (mem_done_of_below h split hy hxy)
  rw [split, List.append_assoc, List.cons_append]
  refine List.Sublist.trans ?_ (List.sublist_append_right l _)
  refine List.Sublist.cons_cons y (List.Sublist.trans ?_ (List.sublist_append_right r _))
  exact List.Sublist.cons_cons x (List.nil_sublist rest)

/-- **The level order is complete and in order**, from any node on. The visit with a queue ends and
lists it. It has what is reached from `s` through elements, each element once and not `s` itself, by
depth and in the order of the document, and all that is below an element before it when it is read
from the back. -/
theorem levelOrder_complete (h : t.IsForest) (s : NodeId) :
    Relation.ReflTransGen t.Round ([s], []) ([], s :: t.levelOrder s) ∧
      (t.levelOrder s).Nodup ∧ s ∉ t.levelOrder s ∧
      (∀ x, x ∈ t.levelOrder s ↔ t.Reaches s x) ∧
      (t.levelOrder s).Pairwise (t.LevelBefore s) ∧
      ∀ x ∈ t.levelOrder s, ∀ y ∈ t.levelOrder s, t.Below x y →
        [y, x].Sublist (t.levelOrder s).reverse := by
  refine ⟨rounds_levelOrder h s, nodup_levelOrder h s, fun hs => ?_,
    fun x => mem_levelOrder_iff_reaches h, pairwise_levelBefore h s, fun x hx y hy => ?_⟩
  · exact h.acyclic s (below_of_mem_levelOrder h hs)
  · exact sublist_reverse_of_below h hx hy

/-- A list with texts and a comment between its items, one of which has markup in it. -/
def menu : Tree :=
  Tree.empty.run
    [.createElement "ul" [], .append root ⟨1⟩, .createElement "li" [], .createElement "li" [],
     .append ⟨1⟩ ⟨3⟩, .createText "\n", .insertBefore ⟨3⟩ ⟨4⟩, .insertBefore ⟨4⟩ ⟨2⟩,
     .createElement "em" [], .append ⟨3⟩ ⟨5⟩, .createComment "first", .append ⟨2⟩ ⟨6⟩,
     .createElement "b" [], .append ⟨2⟩ ⟨7⟩, .createText "soup", .append ⟨7⟩ ⟨8⟩]

theorem levelOrder_complete_menu :
    menu.IsForest ∧ menu.levelOrder ⟨1⟩ = [⟨2⟩, ⟨3⟩, ⟨7⟩, ⟨5⟩] ∧
      Relation.ReflTransGen menu.Round ([⟨1⟩], []) ([], [⟨1⟩, ⟨2⟩, ⟨3⟩, ⟨7⟩, ⟨5⟩]) ∧
      menu.Reaches ⟨1⟩ ⟨5⟩ ∧ menu.LevelBefore ⟨1⟩ ⟨7⟩ ⟨5⟩ ∧
      [⟨7⟩, ⟨2⟩].Sublist (menu.levelOrder ⟨1⟩).reverse := by
  have h : menu.WellFormed :=
    WellFormed.run _ wellFormed_empty (allAllowed_of_areAllowed (by decide +kernel))
  have hlist : menu.levelOrder ⟨1⟩ = [⟨2⟩, ⟨3⟩, ⟨7⟩, ⟨5⟩] := by decide +kernel
  obtain ⟨rounds, -, -, reached, sorted, back⟩ := levelOrder_complete h.forest ⟨1⟩
  have hbelow : menu.Below ⟨2⟩ ⟨7⟩ :=
    Arena.below_of_parent (show menu.parent ⟨7⟩ = some ⟨2⟩ by decide +kernel)
  rw [hlist] at rounds reached sorted back ⊢
  refine ⟨h.forest, rfl, rounds, (reached ⟨5⟩).1 (by decide), ?_, ?_⟩
  · exact (List.pairwise_iff_forall_sublist.1 sorted) (by decide)
  · exact back ⟨2⟩ (by decide) ⟨7⟩ (by decide) hbelow

end Tagdown.Tree
