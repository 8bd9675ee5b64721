import Tagdown.LevelOrder
import Tagdown.Proofs.Arena.Height

/-!
# What comes before what, level by level

A node below `s` stands a fixed number of steps down from it (`AtDepth`), and the level order
lists each depth after those above it. In the list an element is followed by all elements
below it, and by nothing that is above it or before it in the document at the same depth or at
a smaller one (`Precedes`, `pairwise_levelOrder`).

The last section reads the list from the back and stops at an element `e`. Then all elements
below `e` were passed (`mem_done_of_below`), and so were all at or below the siblings after it
(`mem_done_of_following`). None of the nodes above it was, nor any sibling that stands before `e` or
before a node above it (`not_mem_done_of_sibling`).
-/

namespace Tagdown

namespace Arena

variable {α : Type} {a : Arena α}

/-- The way down from `s` to `x` has `d` steps. -/
def AtDepth (a : Arena α) (s : NodeId) : Nat → NodeId → Prop
  | 0, x => x = s
  | d + 1, x => ∃ p, a.parent x = some p ∧ a.AtDepth s d p

/-- A child is one deeper than its parent. -/
theorem AtDepth.step {s p x : NodeId} {d : Nat} (hp : a.AtDepth s d p)
    (hx : a.parent x = some p) : a.AtDepth s (d + 1) x :=
  ⟨p, hx, hp⟩

/-- What has a depth other than zero stands below the start. -/
theorem AtDepth.below {s : NodeId} :
    ∀ {d : Nat} {x : NodeId}, a.AtDepth s (d + 1) x → a.Below s x := by
  intro d
  induction d with
  | zero =>
    rintro x ⟨p, hp, rfl⟩
    exact below_of_parent hp
  | succ d ih =>
    rintro x ⟨p, hp, hd⟩
    exact (ih hd).trans (below_of_parent hp)

/-- The depth of a node is unique. -/
theorem IsForest.atDepth_unique (h : a.IsForest) {s : NodeId} :
    ∀ {m n : Nat} {x : NodeId}, a.AtDepth s m x → a.AtDepth s n x → m = n := by
  intro m
  induction m with
  | zero =>
    rintro (_ | n) x rfl hn
    · rfl
    · exact absurd hn.below (h.acyclic x)
  | succ m ih =>
    intro n x hm hn
    cases n with
    | zero =>
      obtain rfl : x = s := hn
      exact absurd hm.below (h.acyclic x)
    | succ n =>
      obtain ⟨p, hp, hm⟩ := hm
      obtain ⟨q, hq, hn⟩ := hn
      obtain rfl : p = q := Option.some.inj (hp.symm.trans hq)
      rw [ih hm hn]

/-- What stands below a node has a greater depth. -/
theorem AtDepth.deeper {s p x : NodeId} {m : Nat} (hm : a.AtDepth s m p) (hx : a.Below p x) :
    ∃ n, m < n ∧ a.AtDepth s n x := by
  induction hx with
  | single hpx => exact ⟨m + 1, Nat.lt_succ_self m, hm.step hpx⟩
  | tail _ hyx ih =>
    obtain ⟨n, hmn, hn⟩ := ih
    exact ⟨n + 1, Nat.lt_succ_of_lt hmn, hn.step hyx⟩

/-- What stands below a node is deeper than it, so nothing of a tier stands below another part of
it. -/
theorem IsForest.lt_of_atDepth (h : a.IsForest) {s p x : NodeId} {m n : Nat} (hx : a.Below p x)
    (hm : a.AtDepth s m p) (hn : a.AtDepth s n x) : m < n := by
  obtain ⟨k, hk, hkx⟩ := hm.deeper hx
  rw [h.atDepth_unique hn hkx]
  exact hk

/-- A bound for all ways down from `s` bounds the depth of what stands below. -/
theorem IsForest.heightLe_of_atDepth (h : a.IsForest) {s : NodeId} {k : Nat}
    (hs : a.HeightLe k s) :
    ∀ {d : Nat} {x : NodeId}, a.AtDepth s d x → ∃ j, k = d + j ∧ a.HeightLe j x := by
  intro d
  induction d with
  | zero =>
    rintro x rfl
    exact ⟨k, (Nat.zero_add k).symm, hs⟩
  | succ d ih =>
    rintro x ⟨p, hp, hd⟩
    obtain ⟨j, hj, hheight⟩ := ih hd
    cases j with
    | zero => exact hheight.elim
    | succ j => exact ⟨j, by omega, hheight x (h.mem_iff.2 hp)⟩

end Arena

namespace Tree

variable {t : Tree} {s : NodeId}

/-- The elements that are reached from `s` through elements, at depth `d + 1`. -/
def tier (t : Tree) (s : NodeId) : Nat → List NodeId
  | 0 => t.elementChildren s
  | d + 1 => (t.tier s d).flatMap t.elementChildren

/-- The children that are queued are the elements among those that are linked. -/
theorem mem_elementChildren (h : t.IsForest) {p x : NodeId} :
    x ∈ t.elementChildren p ↔ t.parent x = some p ∧ t.isElement x = true := by
  rw [elementChildren, List.mem_filter, h.mem_iff]

/-! ## The list as a sequence of tiers

`levelsFrom` keeps a queue and takes a level off it in each round. What is in the queue after
some rounds is one tier, and the fuel is enough for all tiers that are not empty. -/

theorem levelsFrom_nil (t : Tree) (fuel : Nat) : t.levelsFrom fuel [] = [] := by
  cases fuel <;> rfl

theorem levelsFrom_succ (t : Tree) (fuel : Nat) (level : List NodeId) :
    t.levelsFrom (fuel + 1) level =
      level ++ t.levelsFrom fuel (level.flatMap t.elementChildren) := by
  cases level with
  | nil => rw [List.flatMap_nil, levelsFrom_nil, levelsFrom_nil, List.append_nil]
  | cons x level => rfl

/-- Each round takes one tier off and queues the next, so after `fuel` rounds that many tiers have
come. -/
theorem levelsFrom_tier (t : Tree) (s : NodeId) (fuel : Nat) :
    ∀ d, t.levelsFrom fuel (t.tier s d) = (List.range' d fuel).flatMap (t.tier s) := by
  induction fuel with
  | zero => exact fun _ => rfl
  | succ fuel ih =>
    intro d
    rw [levelsFrom_succ, List.range'_succ, List.flatMap_cons, ← ih (d + 1)]
    rfl

/-- The whole list is the tiers from the top, one after another. -/
theorem levelOrder_eq (t : Tree) (s : NodeId) :
    t.levelOrder s = (List.range t.size).flatMap (t.tier s) := by
  rw [List.range_eq_range']
  exact levelsFrom_tier t s t.size 0

/-- A node is visited when some tier holds it. -/
theorem mem_levelOrder_iff_tier {x : NodeId} :
    x ∈ t.levelOrder s ↔ ∃ d < t.size, x ∈ t.tier s d := by
  rw [levelOrder_eq, List.mem_flatMap]
  simp only [List.mem_range]

theorem isElement_of_mem_tier (h : t.IsForest) {d : Nat} {x : NodeId} (hx : x ∈ t.tier s d) :
    t.isElement x = true := by
  cases d with
  | zero => exact ((mem_elementChildren h).1 hx).2
  | succ d =>
    obtain ⟨p, -, hx⟩ := List.mem_flatMap.1 hx
    exact ((mem_elementChildren h).1 hx).2

/-- The number of a tier is the depth of what stands in it. -/
theorem atDepth_of_mem_tier (h : t.IsForest) :
    ∀ {d : Nat} {x : NodeId}, x ∈ t.tier s d → t.AtDepth s (d + 1) x := by
  intro d
  induction d with
  | zero =>
    intro x hx
    exact ⟨s, ((mem_elementChildren h).1 hx).1, rfl⟩
  | succ d ih =>
    intro x hx
    obtain ⟨p, hp, hx⟩ := List.mem_flatMap.1 hx
    exact ⟨p, ((mem_elementChildren h).1 hx).1, ih hp⟩

/-- There is no tier deeper than the arena is large. -/
theorem tier_eq_nil (h : t.IsForest) (hs : s.index < t.size) {d : Nat} (hd : t.size ≤ d) :
    t.tier s d = [] := by
  refine List.eq_nil_iff_forall_not_mem.2 fun x hx => ?_
  obtain ⟨j, hj, -⟩ := h.heightLe_of_atDepth (h.heightLe_size hs) (atDepth_of_mem_tier h hx)
  omega

/-- To look for more tiers finds none. -/
theorem levelOrder_eq_of_le (h : t.IsForest) (hs : s.index < t.size) {k : Nat}
    (hk : t.size ≤ k) : t.levelOrder s = (List.range k).flatMap (t.tier s) := by
  obtain ⟨j, rfl⟩ := Nat.exists_eq_add_of_le hk
  rw [levelOrder_eq, List.range_add, List.flatMap_append, List.self_eq_append_right,
    List.flatMap_eq_nil_iff]
  intro d hd
  obtain ⟨i, -, rfl⟩ := List.mem_map.1 hd
  exact tier_eq_nil h hs (Nat.le_add_right _ _)

/-- Where only elements have children, the tiers leave out no element. -/
theorem exists_mem_tier (h : t.IsForest) {x : NodeId} (hx : t.Below s x)
    (inner : ∀ p, t.Below s p → t.children p ≠ [] → t.isElement p = true) :
    t.isElement x = true → ∃ d, x ∈ t.tier s d := by
  induction hx with
  | single hsx => exact fun helement => ⟨0, (mem_elementChildren h).2 ⟨hsx, helement⟩⟩
  | tail hsp hpx ih =>
    intro helement
    obtain ⟨d, hd⟩ := ih (inner _ hsp (List.ne_nil_of_mem (h.mem_iff.2 hpx)))
    exact ⟨d + 1, List.mem_flatMap.2 ⟨_, hd, (mem_elementChildren h).2 ⟨hpx, helement⟩⟩⟩

/-- **The list is complete**: it has all elements below `s` if only elements have children there. An
element below a text would be missed. -/
theorem mem_levelOrder (h : t.IsForest) (hs : s.index < t.size)
    (inner : ∀ p, t.Below s p → t.children p ≠ [] → t.isElement p = true) {x : NodeId} :
    x ∈ t.levelOrder s ↔ t.Below s x ∧ t.isElement x = true := by
  rw [mem_levelOrder_iff_tier]
  constructor
  · rintro ⟨d, -, hx⟩
    exact ⟨(atDepth_of_mem_tier h hx).below, isElement_of_mem_tier h hx⟩
  · rintro ⟨hx, helement⟩
    obtain ⟨d, hd⟩ := exists_mem_tier h hx inner helement
    obtain ⟨j, hj, -⟩ := h.heightLe_of_atDepth (h.heightLe_size hs) (atDepth_of_mem_tier h hd)
    exact ⟨d, by omega, hd⟩

/-! ## The order of the list

Between two tiers it is the depth that counts, and within a tier the order of the parents and
then that of siblings. -/

/-- What there is between an element and the later ones: they are different nodes, not at a
smaller depth, and not before it among its siblings. -/
structure Precedes (t : Tree) (s x y : NodeId) : Prop where
  ne : x ≠ y
  depth_le : ∀ {m n}, t.AtDepth s m x → t.AtDepth s n y → m ≤ n
  not_before : ∀ {p l r}, t.children p = l ++ x :: r → y ∉ l

/-- Elements of different depths. -/
theorem precedes_of_lt (h : t.IsForest) {m n : Nat} {x y : NodeId} (hm : t.AtDepth s (m + 1) x)
    (hn : t.AtDepth s (n + 1) y) (hmn : m < n) : t.Precedes s x y := by
  constructor
  · rintro rfl
    have := h.atDepth_unique hm hn
    omega
  · intro m' n' hm' hn'
    rw [h.atDepth_unique hm' hm, h.atDepth_unique hn' hn]
    omega
  · intro p l r hp hy
    -- siblings have the same depth
    obtain ⟨q, hq, hqm⟩ := hm
    obtain ⟨q', hq', hqn⟩ := hn
    have hpx : t.parent x = some p := h.parent_of_split hp
    have hpy : t.parent y = some p := h.mem_iff.1 (hp ▸ List.mem_append_left _ hy)
    obtain rfl : q = p := Option.some.inj (hq.symm.trans hpx)
    obtain rfl : q' = q := Option.some.inj (hq'.symm.trans hpy)
    have := h.atDepth_unique hqm hqn
    omega

/-- Elements of one depth with different parents. -/
theorem precedes_of_parent_ne (h : t.IsForest) {d : Nat} {p q x y : NodeId}
    (hx : t.AtDepth s d x) (hy : t.AtDepth s d y) (hp : t.parent x = some p)
    (hq : t.parent y = some q) (hne : p ≠ q) : t.Precedes s x y := by
  constructor
  · rintro rfl
    exact hne (Option.some.inj (hp.symm.trans hq))
  · intro m n hm hn
    exact Nat.le_of_eq ((h.atDepth_unique hm hx).trans (h.atDepth_unique hy hn))
  · intro p' l r hl hyl
    have hpx : t.parent x = some p' := h.parent_of_split hl
    have hpy : t.parent y = some p' := h.mem_iff.1 (hl ▸ List.mem_append_left _ hyl)
    exact hne ((Option.some.inj (hp.symm.trans hpx)).trans
      (Option.some.inj (hpy.symm.trans hq)))

/-- Siblings stand in the list as they do in the document. -/
theorem pairwise_children (h : t.IsForest) {d : Nat} {p : NodeId} (hp : t.AtDepth s d p) :
    ∀ after before : List NodeId, t.children p = before ++ after →
      after.Pairwise (t.Precedes s) := by
  intro after
  induction after with
  | nil => exact fun _ _ => List.Pairwise.nil
  | cons x after ih =>
    intro before hsplit
    have hdepth : ∀ y ∈ x :: after, t.AtDepth s (d + 1) y := fun y hy =>
      hp.step (h.mem_iff.1 (hsplit ▸ List.mem_append_right before hy))
    have hnodup : (before ++ x :: after).Nodup := hsplit ▸ h.nodup p
    refine List.pairwise_cons.2 ⟨?_, ih (before ++ [x]) (by simpa using hsplit)⟩
    intro y hy
    constructor
    · rintro rfl
      exact (List.nodup_cons.1 (List.nodup_append'.1 hnodup).2.1).1 hy
    · intro m n hm hn
      have hx := hdepth x List.mem_cons_self
      have hy := hdepth y (List.mem_cons_of_mem x hy)
      exact Nat.le_of_eq ((h.atDepth_unique hm hx).trans (h.atDepth_unique hy hn))
    · intro q l r hq hyl
      -- the siblings before `x` are `before`, and `y` is one of those after it
      have hpq := (h.parent_of_split hsplit).symm.trans (h.parent_of_split hq)
      obtain rfl := Option.some.inj hpq
      have hlists := (h.precedingSiblings_eq hsplit).symm.trans (h.precedingSiblings_eq hq)
      rw [List.reverse_inj] at hlists
      subst hlists
      exact (List.nodup_append'.1 hnodup).2.2 hyl (List.mem_cons_of_mem x hy)

/-- Siblings follow each other in document order. -/
theorem pairwise_elementChildren (h : t.IsForest) {d : Nat} {p : NodeId} (hp : t.AtDepth s d p) :
    (t.elementChildren p).Pairwise (t.Precedes s) :=
  (pairwise_children h hp _ [] rfl).sublist List.filter_sublist

/-- A tier keeps document order, since the tier above it does and so do the children of each
node. -/
theorem pairwise_tier (h : t.IsForest) (s : NodeId) (d : Nat) :
    (t.tier s d).Pairwise (t.Precedes s) := by
  induction d with
  | zero => exact pairwise_elementChildren h (d := 0) rfl
  | succ d ih =>
    refine List.pairwise_flatMap.2 ⟨fun p hp => ?_, ?_⟩
    · exact pairwise_elementChildren h (atDepth_of_mem_tier h hp)
    · refine ih.imp_of_mem fun hp hq hpq x hx y hy => ?_
      obtain ⟨hpx, -⟩ := (mem_elementChildren h).1 hx
      obtain ⟨hqy, -⟩ := (mem_elementChildren h).1 hy
      exact precedes_of_parent_ne h ((atDepth_of_mem_tier h hp).step hpx)
        ((atDepth_of_mem_tier h hq).step hqy) hpx hqy hpq.ne

/-- **The list is in order.** Tiers are ordered by depth, and each tier by the order of the
document. -/
theorem pairwise_levelOrder (h : t.IsForest) (s : NodeId) :
    (t.levelOrder s).Pairwise (t.Precedes s) := by
  rw [levelOrder_eq]
  -- within a tier, and from one tier to a deeper one
  refine List.pairwise_flatMap.2 ⟨fun d _ => pairwise_tier h s d, ?_⟩
  refine List.pairwise_lt_range.imp fun hmn x hx y hy => ?_
  exact precedes_of_lt h (atDepth_of_mem_tier h hx) (atDepth_of_mem_tier h hy) hmn

/-- Nothing is visited twice, since no node precedes itself. -/
theorem nodup_levelOrder (h : t.IsForest) (s : NodeId) : (t.levelOrder s).Nodup :=
  (pairwise_levelOrder h s).imp Precedes.ne

/-- All that is visited stands below the start, and the start itself does not. -/
theorem below_of_mem_levelOrder (h : t.IsForest) {x : NodeId} (hx : x ∈ t.levelOrder s) :
    t.Below s x := by
  obtain ⟨d, -, hx⟩ := mem_levelOrder_iff_tier.1 hx
  exact (atDepth_of_mem_tier h hx).below

theorem isElement_of_mem_levelOrder (h : t.IsForest) {x : NodeId} (hx : x ∈ t.levelOrder s) :
    t.isElement x = true := by
  obtain ⟨d, -, hx⟩ := mem_levelOrder_iff_tier.1 hx
  exact isElement_of_mem_tier h hx

theorem exists_atDepth (h : t.IsForest) {x : NodeId} (hx : x ∈ t.levelOrder s) :
    ∃ d, t.AtDepth s (d + 1) x := by
  obtain ⟨d, -, hx⟩ := mem_levelOrder_iff_tier.1 hx
  exact ⟨d, atDepth_of_mem_tier h hx⟩

/-! ## At the place of one element, read from the back

The list is split at `e`, with `rest` before it and `done` after it. All statements here say on
which side a node is. -/

section Place

variable {done rest : List NodeId} {e : NodeId}
variable (h : t.IsForest) (split : (t.levelOrder s).reverse = done ++ e :: rest)
include h split

omit h in
/-- A visit at work: what is done came last in level order, and what is left comes before it. -/
theorem levelOrder_of_split : t.levelOrder s = rest.reverse ++ e :: done.reverse := by
  rw [← List.reverse_reverse (t.levelOrder s), split]
  simp

omit h in
theorem mem_levelOrder_of_split {x : NodeId} (hx : x ∈ e :: done) : x ∈ t.levelOrder s := by
  rw [levelOrder_of_split split]
  refine List.mem_append_right _ ?_
  simpa using hx

omit h in
theorem mem_levelOrder_of_mem_rest {x : NodeId} (hx : x ∈ rest) : x ∈ t.levelOrder s := by
  rw [levelOrder_of_split split]
  exact List.mem_append_left _ (List.mem_reverse.2 hx)

/-- All that is done comes after the node at hand, either deeper or further on. -/
theorem precedes_of_mem_done {y : NodeId} (hy : y ∈ done) : t.Precedes s e y := by
  have hpairwise := pairwise_levelOrder h s
  rw [levelOrder_of_split split, List.pairwise_append, List.pairwise_cons] at hpairwise
  exact hpairwise.2.1.1 y (List.mem_reverse.2 hy)

/-- The node at hand has not been visited yet. -/
theorem not_mem_done : e ∉ done :=
  fun hmem => (precedes_of_mem_done h split hmem).ne rfl

theorem not_mem_done_of_mem_rest {x : NodeId} (hx : x ∈ rest) : x ∉ done := by
  intro hmem
  have hnodup := nodup_levelOrder h s
  rw [← List.nodup_reverse, split] at hnodup
  exact (List.nodup_append'.1 hnodup).2.2 hmem (List.mem_cons_of_mem e hx)

/-- All elements below `e` were passed. -/
theorem mem_done_of_below {x : NodeId} (hx : x ∈ t.levelOrder s) (hbelow : t.Below e x) :
    x ∈ done := by
  -- a node below `e` is deeper than `e`
  have hnot : ¬ t.Precedes s x e := by
    intro hxe
    obtain ⟨m, hm⟩ := exists_atDepth h hx
    obtain ⟨n, hn⟩ := exists_atDepth h (mem_levelOrder_of_split split List.mem_cons_self)
    have hle := hxe.depth_le hm hn
    have hlt := h.lt_of_atDepth hbelow hn hm
    omega
  have hpairwise := pairwise_levelOrder h s
  rw [levelOrder_of_split split, List.pairwise_append] at hpairwise
  rw [levelOrder_of_split split] at hx
  rcases List.mem_append.1 hx with hrest | hx
  · exact absurd (hpairwise.2.2 x hrest e List.mem_cons_self) hnot
  · rcases List.mem_cons.1 hx with rfl | hdone
    · exact absurd hbelow (h.acyclic x)
    · exact List.mem_reverse.1 hdone

/-- What is above `e` is still to come, or not in the list. -/
theorem not_mem_done_of_below {q : NodeId} (hq : t.Below q e) : q ∉ done := by
  intro hmem
  obtain ⟨m, hm⟩ := exists_atDepth h (mem_levelOrder_of_split split List.mem_cons_self)
  obtain ⟨n, hn⟩ := exists_atDepth h (mem_levelOrder_of_split split (List.mem_cons_of_mem e hmem))
  have hle := (precedes_of_mem_done h split hmem).depth_le hm hn
  have hlt := h.lt_of_atDepth hq hn hm
  omega

/-- So are the siblings before `e`, and those before a node that is above it. -/
theorem not_mem_done_of_sibling {p q y : NodeId} {l r : List NodeId} (hq : q = e ∨ t.Below q e)
    (hp : t.children p = l ++ q :: r) (hy : y ∈ l) : y ∉ done := by
  intro hmem
  have hprecedes := precedes_of_mem_done h split hmem
  rcases hq with rfl | hq
  · exact hprecedes.not_before hp hy
  · obtain ⟨m, hm⟩ := exists_atDepth h (mem_levelOrder_of_split split List.mem_cons_self)
    obtain ⟨n, hn⟩ :=
      exists_atDepth h (mem_levelOrder_of_split split (List.mem_cons_of_mem e hmem))
    have hle := hprecedes.depth_le hm hn
    -- `y` and `q` have one parent, so `q` has the depth of `y`
    have hpy : t.parent y = some p := h.mem_iff.1 (hp ▸ List.mem_append_left _ hy)
    obtain ⟨p', hp', hdepth⟩ := hn
    obtain rfl : p' = p := Option.some.inj (hp'.symm.trans hpy)
    have hlt := h.lt_of_atDepth hq (hdepth.step (h.parent_of_split hp)) hm
    omega

/-- The elements at or below the siblings after `e` were passed. -/
theorem mem_done_of_following {p y x : NodeId} {l r : List NodeId} (hp : t.children p = l ++ e :: r)
    (hy : y ∈ r) (hyx : t.Within y x) (hx : x ∈ t.levelOrder s) : x ∈ done := by
  by_contra hdone
  obtain ⟨between, after, rfl⟩ := List.append_of_mem hy
  have hne : x ≠ e := by
    rintro rfl
    have hnodup := h.nodup p
    rw [hp, List.nodup_append] at hnodup
    have hyp : y ∈ t.children p := by rw [hp]; simp
    have hxp : x ∈ t.children p := by rw [hp]; simp
    refine h.not_within_of_sibling hyp hxp ?_ hyx (t.within_self x)
    rintro rfl
    exact (List.nodup_cons.1 hnodup.2.1).1 (by simp)
  rw [← List.mem_reverse, split, List.mem_append, List.mem_cons] at hx
  obtain ⟨a, b, rfl⟩ := List.append_of_mem ((hx.resolve_left hdone).resolve_left hne)
  -- else `e` would come before `x`, though it stands to the left of it
  have split' : (t.levelOrder s).reverse = (done ++ e :: a) ++ x :: b := by rw [split]; simp
  have hp' : t.children p = (l ++ e :: between) ++ y :: after := by rw [hp]; simp
  exact not_mem_done_of_sibling (y := e) h split' (hyx.imp_left Eq.symm) hp' (by simp) (by simp)

end Place

end Tree

end Tagdown
