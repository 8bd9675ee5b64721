import Mathlib.Data.List.Nodup
import Mathlib.Data.List.Perm.Subperm
import Mathlib.Logic.Relation
import Tagdown.Arena.Lemmas

/-!
# Forests in an arena

Five links stand at each node of an arena, and nothing in their type makes them agree.
`Represents a kids` says that they do, and that they are the links of the ordered forest in
which the children of each node `p` are `kids p`. An arena represents one forest at most
(`Represents.children_eq`), so `IsForest` names no lists: the links are those of the lists
that `children` reads off, and no node stands below itself.

All that is said here is said of every node, whether it can be reached from the first one or
was taken out long ago.
-/

namespace Tagdown.Arena

variable {α : Type} {a : Arena α}

/-- `a.Below p x`: the node `x` stands somewhere below `p`. -/
def Below (a : Arena α) : NodeId → NodeId → Prop :=
  Relation.TransGen fun p x => a.parent x = some p

/-- The links of `a` are those of the forest in which the children of `p` are `kids p`. -/
structure Represents (a : Arena α) (kids : NodeId → List NodeId) : Prop where
  /-- no node stands twice below the same parent -/
  nodup : ∀ p, (kids p).Nodup
  /-- the children of `p` are the nodes whose parent is `p` -/
  mem_iff : ∀ {p x}, x ∈ kids p ↔ a.parent x = some p
  first : ∀ p, a.firstChild p = (kids p).head?
  last : ∀ p, a.lastChild p = (kids p).getLast?
  /-- the siblings of a node are those right before and right after it -/
  siblings : ∀ {p l x r}, kids p = l ++ x :: r →
    a.previousSibling x = l.getLast? ∧ a.nextSibling x = r.head?
  /-- a node that stands nowhere has no siblings -/
  orphan : ∀ {x}, a.parent x = none → a.previousSibling x = none ∧ a.nextSibling x = none

/-- `kids` is the chain of the children of `p`: the links to the next sibling lead through it from
the first child to the last one, and all links of the nodes in it agree. -/
structure ChildChain (a : Arena α) (p : NodeId) (kids : List NodeId) : Prop where
  nodup : kids.Nodup
  parent : ∀ x ∈ kids, a.parent x = some p
  first : a.firstChild p = kids.head?
  last : a.lastChild p = kids.getLast?
  siblings : ∀ {l x r}, kids = l ++ x :: r →
    a.previousSibling x = l.getLast? ∧ a.nextSibling x = r.head?

/-- The links of `a` agree with each other everywhere, and no node stands below itself. -/
structure IsForest (a : Arena α) : Prop extends Represents a a.children where
  acyclic : ∀ x, ¬ a.Below x x

/-! ## Positions in the arena

A link can name any number. That each node with a neighbour is in the arena follows from the
lists: they have no node that stands outside, and outside all links are empty. -/

/-- Only a node of the arena has neighbours. -/
theorem links_eq_empty {x : NodeId} (h : a.size ≤ x.index) : a.links x = {} := by
  rw [links, Array.getElem?_eq_none h]
  rfl

/-- What has a parent is in the arena: outside of it there are no links at all. -/
theorem index_lt_of_parent {x p : NodeId} (h : a.parent x = some p) : x.index < a.size := by
  rcases Nat.lt_or_ge x.index a.size with hlt | hge
  · exact hlt
  · rw [parent, links_eq_empty hge] at h
    cases h

theorem index_lt_of_firstChild {p x : NodeId} (h : a.firstChild p = some x) :
    p.index < a.size := by
  rcases Nat.lt_or_ge p.index a.size with hlt | hge
  · exact hlt
  · rw [firstChild, links_eq_empty hge] at h
    cases h

/-- Different nodes of an arena are no more than its size. -/
theorem length_le_size {ids : List NodeId} (nodup : ids.Nodup)
    (inside : ∀ x ∈ ids, x.index < a.size) : ids.length ≤ a.size := by
  have indices : (ids.map NodeId.index).Nodup := by
    refine nodup.map ?_
    intro x y h
    cases x
    cases y
    exact congrArg NodeId.mk h
  have sub : ids.map NodeId.index ⊆ List.range a.size := by
    intro i hi
    obtain ⟨x, hx, rfl⟩ := List.mem_map.1 hi
    exact List.mem_range.2 (inside x hx)
  have := (List.subperm_of_subset indices sub).length_le
  rwa [List.length_map, List.length_range] at this

/-! ## The lists that the links lead through

`ChildChain a p kids` says of one list what `Represents` says of all. It is enough for walking
along the children of `p`, forwards from the first or backwards from the last one, and whatever
is read off on the way is the list. -/

namespace ChildChain

variable {p : NodeId} {kids : List NodeId}

/-- No list of children is longer than the arena, which is why walking one with that much fuel
comes to its end. -/
theorem length_le (h : a.ChildChain p kids) : kids.length ≤ a.size :=
  length_le_size h.nodup fun x hx => index_lt_of_parent (h.parent x hx)

/-- From any child on, the links to the next sibling lead through the rest of the children. -/
theorem chain_nextSibling (h : a.ChildChain p kids) :
    ∀ (fuel : Nat) (l r : List NodeId), kids = l ++ r → r.length ≤ fuel →
      chain a.nextSibling fuel r.head? = r := by
  intro fuel
  induction fuel with
  | zero =>
    intro l r _ hlen
    rw [List.length_eq_zero_iff.1 (Nat.le_zero.1 hlen)]
    rfl
  | succ n ih =>
    intro l r hkids hlen
    cases r with
    | nil => rfl
    | cons x r =>
      have hnext : a.nextSibling x = r.head? := (h.siblings hkids).2
      rw [List.head?_cons, chain, hnext]
      rw [ih (l ++ [x]) r (by simpa using hkids) (by simpa using hlen)]

/-- From any child on, the links to the previous sibling lead through the children before it,
nearest first. -/
theorem chain_previousSibling (h : a.ChildChain p kids) :
    ∀ (fuel : Nat) (l r : List NodeId), kids = l ++ r → l.length ≤ fuel →
      chain a.previousSibling fuel l.getLast? = l.reverse := by
  intro fuel
  induction fuel with
  | zero =>
    intro l r _ hlen
    rw [List.length_eq_zero_iff.1 (Nat.le_zero.1 hlen)]
    rfl
  | succ n ih =>
    intro l r hkids hlen
    rcases List.eq_nil_or_concat l with rfl | ⟨l, x, rfl⟩
    · rfl
    · have hkids' : kids = l ++ x :: r := by simpa using hkids
      have hprev : a.previousSibling x = l.getLast? := (h.siblings hkids').1
      rw [List.concat_eq_append] at hlen ⊢
      rw [List.getLast?_concat, chain, hprev, ih l (x :: r) hkids' (by simpa using hlen)]
      simp

/-- The chain is what `children` reads off. -/
theorem children_eq (h : a.ChildChain p kids) : a.children p = kids := by
  rw [children, h.first]
  exact h.chain_nextSibling a.size [] kids rfl h.length_le

/-- Walked backwards from a child, a list of children is its part before that child, nearest
first. -/
theorem precedingSiblings_eq (h : a.ChildChain p kids) {x : NodeId} {l r : List NodeId}
    (hkids : kids = l ++ x :: r) : a.precedingSiblings x = l.reverse := by
  have hlen := h.length_le
  rw [hkids, List.length_append] at hlen
  rw [precedingSiblings, (h.siblings hkids).1]
  exact h.chain_previousSibling a.size l (x :: r) hkids (by omega)

end ChildChain

namespace Represents

variable {kids : NodeId → List NodeId}

theorem child_lt (h : a.Represents kids) {p x : NodeId} (hx : x ∈ kids p) : x.index < a.size :=
  index_lt_of_parent (h.mem_iff.1 hx)

theorem parent_lt (h : a.Represents kids) {p x : NodeId} (hx : x ∈ kids p) :
    p.index < a.size := by
  obtain ⟨y, hy⟩ : ∃ y, (kids p).head? = some y := by
    rw [← Option.isSome_iff_exists, List.isSome_head?]
    exact List.ne_nil_of_mem hx
  exact index_lt_of_firstChild ((h.first p).trans hy)

/-- Whatever stands in the list of `p` has `p` as its parent. -/
theorem parent_of_split (h : a.Represents kids) {p x : NodeId} {l r : List NodeId}
    (hkids : kids p = l ++ x :: r) : a.parent x = some p := by
  rw [← h.mem_iff, hkids]
  exact List.mem_append_right l List.mem_cons_self

/-- A node stands below one parent at most. -/
theorem parent_unique (h : a.Represents kids) {p q x : NodeId} (hp : x ∈ kids p)
    (hq : x ∈ kids q) : p = q :=
  Option.some.inj ((h.mem_iff.1 hp).symm.trans (h.mem_iff.1 hq))

/-- The links below `p` run through its list, from the first child to the last. -/
theorem childChain (h : a.Represents kids) (p : NodeId) : a.ChildChain p (kids p) :=
  ⟨h.nodup p, fun _ => h.mem_iff.1, h.first p, h.last p, h.siblings⟩

theorem length_le (h : a.Represents kids) (p : NodeId) : (kids p).length ≤ a.size :=
  (h.childChain p).length_le

/-- **The forest is unique**: its lists are those that `children` reads off. What is known of some
lists that the links represent can therefore be said of `children`. -/
theorem children_eq (h : a.Represents kids) (p : NodeId) : a.children p = kids p :=
  (h.childChain p).children_eq

theorem precedingSiblings_eq (h : a.Represents kids) {p x : NodeId} {l r : List NodeId}
    (hkids : kids p = l ++ x :: r) : a.precedingSiblings x = l.reverse :=
  (h.childChain p).precedingSiblings_eq hkids

/-- Without a parent a node has no siblings to walk to. -/
theorem precedingSiblings_of_orphan (h : a.Represents kids) {x : NodeId}
    (hx : a.parent x = none) : a.precedingSiblings x = [] := by
  rw [precedingSiblings, (h.orphan hx).1]
  cases a.size <;> rfl

/-- Lists of children and no node below itself is all that a forest asks for. -/
theorem isForest (h : a.Represents kids) (acyclic : ∀ x, ¬ a.Below x x) : a.IsForest := by
  have : a.children = kids := funext h.children_eq
  exact ⟨this ▸ h, acyclic⟩

/-! ## Neighbours

The links of one node tell where it stands: after its previous sibling and before its next one,
in the list of its parent. -/

/-- A node with a previous sibling stands right after it. -/
theorem of_previousSibling (h : a.Represents kids) {x y : NodeId}
    (hy : a.previousSibling x = some y) : ∃ p l r, kids p = l ++ y :: x :: r := by
  rcases hp : a.parent x with _ | p
  · rw [(h.orphan hp).1] at hy
    cases hy
  · obtain ⟨l, r, hkids⟩ := List.append_of_mem (h.mem_iff.2 hp)
    rw [(h.siblings hkids).1] at hy
    obtain ⟨l, rfl⟩ := List.getLast?_eq_some_iff.1 hy
    exact ⟨p, l, r, by rw [hkids, List.append_assoc, List.singleton_append]⟩

/-- A node with a next sibling stands right before it. -/
theorem of_nextSibling (h : a.Represents kids) {x y : NodeId}
    (hy : a.nextSibling x = some y) : ∃ p l r, kids p = l ++ x :: y :: r := by
  rcases hp : a.parent x with _ | p
  · rw [(h.orphan hp).2] at hy
    cases hy
  · obtain ⟨l, r, hkids⟩ := List.append_of_mem (h.mem_iff.2 hp)
    rw [(h.siblings hkids).2] at hy
    obtain ⟨r, rfl⟩ := List.head?_eq_some_iff.1 hy
    exact ⟨p, l, r, hkids⟩

/-- Only the links matter, not what the nodes hold. -/
theorem of_links_eq {β : Type} {b : Arena β} (h : a.Represents kids)
    (links : ∀ x, b.links x = a.links x) : b.Represents kids := by
  constructor
  · exact h.nodup
  · intro p x
    rw [parent, links]
    exact h.mem_iff
  · intro p
    rw [firstChild, links]
    exact h.first p
  · intro p
    rw [lastChild, links]
    exact h.last p
  · intro p l x r hkids
    rw [previousSibling, nextSibling, links]
    exact h.siblings hkids
  · intro x hx
    rw [parent, links] at hx
    rw [previousSibling, nextSibling, links]
    exact h.orphan hx

end Represents

/-! ## Below

A path of links to parents leads from a node up to all that it stands below. In a forest this way
is unique, it has an end, and it never comes back; `avoids` walks it, so that for a given arena
it can be computed that a node is not below another. -/

theorem below_of_parent {p x : NodeId} (h : a.parent x = some p) : a.Below p x :=
  Relation.TransGen.single h

theorem Below.trans {p q x : NodeId} (h : a.Below p q) (h' : a.Below q x) : a.Below p x :=
  Relation.TransGen.trans h h'

/-- What stands below a node is one of its children or below one. -/
theorem Below.cases_child {p x : NodeId} (h : a.Below p x) :
    ∃ c, a.parent c = some p ∧ (c = x ∨ a.Below c x) := by
  obtain ⟨c, hc, hcx⟩ := Relation.TransGen.head'_iff.1 h
  refine ⟨c, hc, ?_⟩
  rcases Relation.reflTransGen_iff_eq_or_transGen.1 hcx with rfl | hcx
  · exact Or.inl rfl
  · exact Or.inr hcx

/-- What stands below a node has it for a parent, or a parent below it. -/
theorem Below.cases_parent {p x : NodeId} (h : a.Below p x) :
    ∃ q, a.parent x = some q ∧ (q = p ∨ a.Below p q) := by
  obtain ⟨q, hpq, hq⟩ := Relation.TransGen.tail'_iff.1 h
  refine ⟨q, hq, ?_⟩
  rcases Relation.reflTransGen_iff_eq_or_transGen.1 hpq with rfl | hpq
  · exact Or.inl rfl
  · exact Or.inr hpq

/-- Fewer parents leave fewer nodes below, so what an edit only takes away makes no cycle. -/
theorem Below.mono {b : Arena α} (sub : ∀ {p x}, b.parent x = some p → a.parent x = some p)
    {p x : NodeId} (h : b.Below p x) : a.Below p x :=
  Relation.TransGen.mono (fun _ _ => sub) p x h

/-- Only nodes of the arena stand below another. -/
theorem Below.index_lt {p x : NodeId} (h : a.Below p x) : x.index < a.size := by
  obtain ⟨q, hq, -⟩ := h.cases_parent
  exact index_lt_of_parent hq

/-- Nothing is above a node that stands nowhere. -/
theorem not_below_of_orphan {p x : NodeId} (h : a.parent x = none) : ¬ a.Below p x := by
  intro hx
  obtain ⟨q, hq, -⟩ := hx.cases_parent
  rw [h] at hq
  cases hq

/-- One step up from a node in search of another one. -/
theorem not_below_of_parent {p q x : NodeId} (h : a.parent x = some q) (hne : q ≠ p)
    (hq : ¬ a.Below p q) : ¬ a.Below p x := by
  intro hx
  obtain ⟨q', hq', hp⟩ := hx.cases_parent
  obtain rfl : q = q' := Option.some.inj (h.symm.trans hq')
  rcases hp with hp | hp
  · exact hne hp
  · exact hq hp

/-- The way up from `x` comes to its end within `fuel` steps and does not meet `p`. -/
def avoids (a : Arena α) (p : NodeId) : Nat → NodeId → Bool
  | 0, _ => false
  | fuel + 1, x =>
    match a.parent x with
    | none => true
    | some q => q != p && avoids a p fuel q

/-- A walk up that comes to an end without meeting `p` shows that `p` is no ancestor. -/
theorem not_below_of_avoids {p : NodeId} :
    ∀ {fuel : Nat} {x : NodeId}, a.avoids p fuel x = true → ¬ a.Below p x := by
  intro fuel
  induction fuel with
  | zero => exact fun h => absurd h (by simp [avoids])
  | succ fuel ih =>
    intro x h
    rw [avoids] at h
    split at h
    · exact not_below_of_orphan ‹_›
    · rename_i q hq
      rw [Bool.and_eq_true, bne_iff_ne] at h
      exact not_below_of_parent hq h.1 (ih h.2)

/-- Where no node was placed yet, the arena is a forest of single nodes. -/
theorem isForest_of_links_eq_empty (h : ∀ x, a.links x = {}) : a.IsForest := by
  have orphans : ∀ x, a.parent x = none := fun x => by rw [parent, h]
  have represents : a.Represents fun _ => [] := by
    constructor
    · exact fun _ => List.nodup_nil
    · intro p x
      simp [orphans]
    · exact fun p => by rw [firstChild, h]; rfl
    · exact fun p => by rw [lastChild, h]; rfl
    · intro p l x r hsplit
      simp at hsplit
    · intro x _
      rw [previousSibling, nextSibling, h]
      exact ⟨rfl, rfl⟩
  exact represents.isForest fun x => not_below_of_orphan (orphans x)

/-- `a.Within p x`: the node `x` is `p` or stands below it. -/
def Within (a : Arena α) (p x : NodeId) : Prop :=
  x = p ∨ a.Below p x

theorem within_self (a : Arena α) (p : NodeId) : a.Within p p :=
  Or.inl rfl

/-- Within, unlike below, allows the node itself, and so both parts may be empty walks. -/
theorem Within.trans {p q x : NodeId} (h : a.Within p q) (h' : a.Within q x) : a.Within p x := by
  rcases h with rfl | h
  · exact h'
  · rcases h' with rfl | h'
    · exact Or.inr h
    · exact Or.inr (h.trans h')

/-- The same for a node with all that stands below it. -/
theorem Within.mono {b : Arena α} (sub : ∀ {p x}, b.parent x = some p → a.parent x = some p)
    {p x : NodeId} (h : b.Within p x) : a.Within p x :=
  h.imp_right (Below.mono sub)

/-- Of two nodes above the same one, one is above the other. -/
theorem Within.total {p q x : NodeId} (hp : a.Within p x) (hq : a.Within q x) :
    a.Within p q ∨ a.Within q p := by
  rcases hp with rfl | hp
  · exact Or.inr hq
  rcases hq with rfl | hq
  · exact Or.inl (Or.inr hp)
  -- both are above the parent of `x`, or one of them is that parent
  induction hp with
  | single hpx =>
    obtain ⟨r, hr, hqr⟩ := hq.cases_parent
    obtain rfl := Option.some.inj (hpx.symm.trans hr)
    exact Or.inr hqr
  | tail hpy hyx ih =>
    obtain ⟨r, hr, hqr⟩ := hq.cases_parent
    obtain rfl := Option.some.inj (hyx.symm.trans hr)
    rcases hqr with rfl | hqr
    · exact Or.inl (Or.inr hpy)
    · exact ih hqr

namespace IsForest

/-- A child stands below its parent. -/
theorem below_of_mem (h : a.IsForest) {p x : NodeId} (hx : x ∈ a.children p) : a.Below p x :=
  below_of_parent (h.mem_iff.1 hx)

/-- No node is its own child in a forest. -/
theorem ne_of_mem (h : a.IsForest) {p x : NodeId} (hx : x ∈ a.children p) : x ≠ p := by
  rintro rfl
  exact h.acyclic x (h.below_of_mem hx)

theorem within_of_mem (h : a.IsForest) {p x : NodeId} (hx : x ∈ a.children p) : a.Within p x :=
  Or.inr (h.below_of_mem hx)

/-- What is at or below a node is no parent of it. -/
theorem ne_of_within (h : a.IsForest) {p c x : NodeId} (hc : c ∈ a.children p)
    (hx : a.Within c x) : x ≠ p := by
  rintro rfl
  rcases hx with rfl | hx
  · exact h.ne_of_mem hc rfl
  · exact h.acyclic c (hx.trans (h.below_of_mem hc))

/-- Nothing stands at or below two siblings. -/
theorem not_within_of_sibling (h : a.IsForest) {p c d x : NodeId} (hc : c ∈ a.children p)
    (hd : d ∈ a.children p) (hne : c ≠ d) (hx : a.Within c x) : ¬ a.Within d x := by
  -- neither of the two stands below the other, since both stand right below `p`
  have apart {c d : NodeId} (hc : c ∈ a.children p) (hd : d ∈ a.children p) (hne : c ≠ d) :
      ¬ a.Within c d := by
    rintro (rfl | hcd)
    · exact hne rfl
    · obtain ⟨q, hq, hcq⟩ := hcd.cases_parent
      obtain rfl := Option.some.inj ((h.mem_iff.1 hd).symm.trans hq)
      exact h.ne_of_within hc (hcq.imp_left id) rfl
  intro hx'
  rcases hx.total hx' with hcd | hdc
  · exact apart hc hd hne hcd
  · exact apart hd hc (Ne.symm hne) hdc

/-- A forest is a matter of links; the payloads, and even their type, may be others. -/
theorem of_links_eq {β : Type} {b : Arena β} (h : a.IsForest)
    (links : ∀ x, b.links x = a.links x) : b.IsForest := by
  refine (h.toRepresents.of_links_eq links).isForest ?_
  intro x hx
  have same : (fun p x => b.parent x = some p) = fun p x => a.parent x = some p := by
    funext p x
    rw [parent, parent, links]
  rw [Below, same] at hx
  exact h.acyclic x hx

end IsForest

end Tagdown.Arena
