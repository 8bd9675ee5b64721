import Mathlib.Data.List.Induction
import Tagdown.Converter
import Tagdown.Proofs.LevelOrder
import Tagdown.Proofs.Normalize

/-!
# Runs of a conversion

A conversion visits the elements of a normalized document `N` from the back of its level order.
Meanwhile the document changes, and what there is in the end is said by one list for each node:
`rep x` are the nodes that stand where `x` stood. It is `x` itself until `x` is visited, and
from then on what the visit has put there (`Outcome`, `Run`).

`Progress` is what holds between two visits. At its heart is `children_eq`: the children of a
node that still stands are those that it had in `N`, each replaced by its `rep`. The order of
the visits comes in once, in `Progress.settled_step`: when an element is unwrapped, its children
were visited before, so that no visit is still to come to a node that was moved.
-/

namespace Tagdown

/-- The level order of a clean document has all its elements. -/
theorem Tree.Clean.mem_levelOrder {N : Tree} (h : N.Clean) {x : NodeId} :
    x ∈ N.levelOrder Tree.root ↔ N.Below Tree.root x ∧ N.isElement x = true := by
  refine Tree.mem_levelOrder h.wellFormed.forest h.wellFormed.root_lt ?_
  intro p hp hchildren
  rcases h.cases_below hp with helement | ⟨-, hnil⟩
  · exact helement
  · exact absurd hnil hchildren

/-- What the nodes hold when a new text has come into the place of `e`. -/
theorem Tree.node_replace_fresh (t : Tree) (markdown : String) (e x : NodeId) :
    Tree.node ((t.createText markdown).1.replace e ⟨t.size⟩) x =
      if x.index = t.size then { label := .text, value := markdown } else t.node x := by
  rw [node_replace, createText, node_push]

/-- The new text. -/
theorem Tree.node_fresh (t : Tree) (markdown : String) (e : NodeId) :
    Tree.node ((t.createText markdown).1.replace e ⟨t.size⟩) ⟨t.size⟩ =
      { label := .text, value := markdown } :=
  (t.node_replace_fresh markdown e ⟨t.size⟩).trans (if_pos rfl)

namespace Converter

open Arena (splice)
open Tagdown.Tree (root)

variable {c : Converter} {N t t' : Tree} {e : NodeId} {ys : List NodeId}

/-! ## One visit

The branches of `visit` are taken apart here and nowhere else. What comes after speaks of three
outcomes: a new text in the place of the element, its children in its place, or nothing changed. -/

/-- The node is put to the rules: it is not blank, or it is one that never has content. -/
def IsAsked (c : Converter) (n : NodeRef) : Prop :=
  c.options.isVoid n.tagName = true ∨ Text.isBlank n.innerHtml.toList = false

/-- As the program asks it: not blank, or void. -/
theorem isAsked_iff {n : NodeRef} :
    c.IsAsked n ↔ (!c.options.isVoid n.tagName && Text.isBlank n.innerHtml.toList) = false := by
  rw [IsAsked, Bool.and_eq_false_iff, Bool.not_eq_false']

/-- No rule is asked about a node that is blank. -/
theorem replacement?_of_not_asked {n : NodeRef} (h : ¬ c.IsAsked n) :
    c.replacement? n = .ok (some "") := by
  rw [isAsked_iff, Bool.not_eq_false] at h
  rw [replacement?]
  exact if_pos h

/-- No rule was found for a node that was asked about, and the policy decides. -/
theorem replacement?_of_asked_none {n : NodeRef} (hasked : c.IsAsked n)
    (hfind : c.rules.find? n c.options = none) : c.replacement? n = .ok none := by
  rw [replacement?, hfind]
  exact if_neg (by simp [isAsked_iff.1 hasked])

/-- What the first rule for a node makes of it. -/
theorem replacement?_of_asked {n : NodeRef} {key : String} {rule : Rule} (hasked : c.IsAsked n)
    (hfind : c.rules.find? n c.options = some (key, rule)) :
    c.replacement? n =
      ((rule.render (decodeEntities n.innerHtml) n c.options).mapError (.inRule key)).map some := by
  rw [replacement?, hfind]
  exact if_neg (by simp [isAsked_iff.1 hasked])

/-- What the visit of `e` can do to the document; `ys` are the nodes that come to stand where
`e` stood. -/
inductive Outcome (c : Converter) (t : Tree) (e : NodeId) : List NodeId → Tree → Prop where
  | replaced {markdown : String} (h : c.replacement? ⟨t, e⟩ = .ok (some markdown)) :
    Outcome c t e [⟨t.size⟩] ((t.createText markdown).1.replace e ⟨t.size⟩)
  | unwrapped (h : c.replacement? ⟨t, e⟩ = .ok none) (policy : c.options.unmatched = .unwrap) :
    Outcome c t e (t.children e) (t.unwrap e)
  | kept (h : c.replacement? ⟨t, e⟩ = .ok none) (policy : c.options.unmatched = .keep) :
    Outcome c t e [e] t

/-- A visit that succeeds has one of the three outcomes. -/
theorem exists_outcome (attached : t.parent e ≠ none) (h : c.visit t e = .ok t') :
    ∃ ys, Outcome c t e ys t' := by
  rw [visit, if_neg (by simpa using attached)] at h
  rcases hreplacement : c.replacement? ⟨t, e⟩ with error | markdown
  · rw [hreplacement] at h
    cases h
  · rw [hreplacement] at h
    cases markdown with
    | some markdown =>
      cases h
      exact ⟨_, .replaced hreplacement⟩
    | none =>
      rw [Except.map] at h
      cases hpolicy : c.options.unmatched with
      | unwrap =>
        rw [hpolicy] at h
        cases h
        exact ⟨_, .unwrapped hreplacement hpolicy⟩
      | keep =>
        rw [hpolicy] at h
        cases h
        exact ⟨_, .kept hreplacement hpolicy⟩

/-- An element that no rule is for is unwrapped, if the policy says so. -/
theorem visit_eq_unwrap (attached : t.parent e ≠ none) (policy : c.options.unmatched = .unwrap)
    (h : c.replacement? ⟨t, e⟩ = .ok none) : c.visit t e = .ok (t.unwrap e) := by
  rw [visit, if_neg (by simpa using attached), h, policy]
  rfl

/-! ## A new node in the place of another one

A replacement is made in three edits: a node is added to the arena, it is put before the element,
and the element is taken out. Of these only the lists before and after matter. -/

section Fresh

variable (h : t.IsForest)
include h

/-- A node that is not in the arena yet has nothing below it. -/
theorem not_below_of_fresh {n x : NodeId} (hn : t.size ≤ n.index) : ¬ t.Below n x := by
  intro hx
  obtain ⟨y, hy, -⟩ := hx.cases_child
  have := h.parent_lt (h.mem_iff.2 hy)
  omega

/-- The new text stands nowhere and has nothing below it, so putting it in makes no cycle. -/
theorem isForest_replace_fresh (n : Node) (e : NodeId) :
    ((t.push n).1.replace e ⟨t.size⟩).IsForest := by
  refine (h.push n).replace ?_ ?_
  · rw [Arena.size_push]
    exact Nat.lt_succ_self _
  · intro hbelow
    refine not_below_of_fresh h (Nat.le_refl t.size) (hbelow.mono fun hp => ?_)
    rwa [Arena.parent, Arena.links_push] at hp

/-- Only the list that held the element changes, and there the text is in its place. -/
theorem children_replace_fresh (n : Node) (attached : t.parent e ≠ none) (p : NodeId) :
    ((t.push n).1.replace e ⟨t.size⟩).children p = splice e [⟨t.size⟩] (t.children p) := by
  have hne : e ≠ ⟨t.size⟩ := by
    obtain ⟨q, hq⟩ := Option.ne_none_iff_exists'.1 attached
    rintro rfl
    exact Nat.lt_irrefl _ (Arena.index_lt_of_parent hq)
  have hfresh : ⟨t.size⟩ ∉ t.children p := fun hmem => Nat.lt_irrefl _ (h.child_lt hmem)
  have attached' : (t.push n).1.parent e ≠ none := by
    rw [Arena.parent, Arena.links_push]
    exact attached
  have hlt : t.size < (t.push n).1.size := by
    rw [Arena.size_push]
    exact Nat.lt_succ_self _
  rw [(h.push n).children_replace hne attached' hlt, h.children_push, Arena.splice_eq_self hfresh]

end Fresh

/-! ## What a visit does to the links

One lemma for each view of the arena, and in each the three outcomes. -/

namespace Outcome

/-- A visit makes at most one node, and removes none. -/
theorem size_le (o : Outcome c t e ys t') : t.size ≤ t'.size := by
  cases o with
  | replaced h =>
    rw [Arena.size_replace, Tree.createText, Arena.size_push]
    exact Nat.le_succ _
  | unwrapped h policy => exact Nat.le_of_eq (Arena.size_unwrap t e).symm
  | kept h policy => exact Nat.le_refl _

/-- What stands where `e` stood is a new node, a child of `e`, or `e` itself. -/
theorem cases_mem (o : Outcome c t e ys t') {x : NodeId} (hx : x ∈ ys) :
    x = ⟨t.size⟩ ∨ x ∈ t.children e ∨ x = e := by
  cases o with
  | replaced h => exact Or.inl (List.mem_singleton.1 hx)
  | unwrapped h policy => exact Or.inr (Or.inl hx)
  | kept h policy => exact Or.inr (Or.inr (List.mem_singleton.1 hx))

/-- An element that still stands after its visit was kept. -/
theorem of_self (o : Outcome c t e ys t') (h : t.IsForest) (he : e.index < t.size)
    (hys : ys = [e]) :
    t' = t ∧ c.replacement? ⟨t, e⟩ = .ok none ∧ c.options.unmatched = .keep := by
  cases o with
  | replaced =>
    obtain rfl : ⟨t.size⟩ = e := List.singleton_inj.1 hys
    exact absurd he (Nat.lt_irrefl t.size)
  | unwrapped => exact absurd rfl (h.ne_of_mem (hys ▸ List.mem_cons_self))
  | kept hreplacement hpolicy => exact ⟨rfl, hreplacement, hpolicy⟩

/-- All that a visit makes are texts. -/
theorem label_new (o : Outcome c t e ys t') {x : NodeId} (hx : t.size ≤ x.index)
    (hx' : x.index < t'.size) : t'.label x = .text := by
  cases o with
  | replaced h =>
    rw [Arena.size_replace, Tree.createText, Arena.size_push] at hx'
    rw [Tree.label, Tree.node_replace_fresh, if_pos (by omega)]
  | unwrapped h policy =>
    rw [Arena.size_unwrap] at hx'
    exact absurd hx' (Nat.not_lt.2 hx)
  | kept h policy => exact absurd hx' (Nat.not_lt.2 hx)

/-- No visit changes what a node holds. -/
theorem node_eq (o : Outcome c t e ys t') {x : NodeId} (hx : x.index < t.size) :
    t'.node x = t.node x := by
  cases o with
  | replaced h => rw [Tree.node_replace_fresh, if_neg (Nat.ne_of_lt hx)]
  | unwrapped h policy => exact Tree.node_unwrap t e x
  | kept h policy => rfl

/-- Any outcome leaves a forest. -/
theorem isForest (o : Outcome c t e ys t') (h : t.IsForest) : t'.IsForest := by
  cases o with
  | replaced => exact isForest_replace_fresh h _ e
  | unwrapped => exact h.unwrap e
  | kept => exact h

/-- Wherever `e` was a child, `ys` stand in its place. -/
theorem children_eq (o : Outcome c t e ys t') (h : t.IsForest) (attached : t.parent e ≠ none)
    {p : NodeId} (hp : p ≠ e) : t'.children p = splice e ys (t.children p) := by
  cases o with
  | replaced => exact children_replace_fresh h _ attached p
  | unwrapped => rw [h.children_unwrap attached, if_neg hp]
  | kept => rw [Arena.splice_self]

/-- A node that stays where it is keeps its parent. -/
theorem parent_eq (o : Outcome c t e ys t') (h : t.IsForest) (attached : t.parent e ≠ none)
    {x : NodeId} (hne : x ≠ e) (hys : x ∉ ys) : t'.parent x = t.parent x := by
  -- a parent is known by the lists of children, and these lose `e` and gain `ys` alone
  have mem : ∀ p, x ∈ t'.children p ↔ x ∈ t.children p := by
    intro p
    rcases eq_or_ne p e with rfl | hp
    · cases o with
      | replaced =>
        rw [Tree.createText, children_replace_fresh h _ attached, Arena.mem_splice]
        simp [hne, hys]
      | unwrapped =>
        rw [h.children_unwrap attached, if_pos rfl]
        simp [hys]
      | kept => rfl
    · rw [o.children_eq h attached hp, Arena.mem_splice]
      simp [hne, hys]
  refine Option.ext fun p => ?_
  rw [← (o.isForest h).mem_iff, mem, h.mem_iff]

end Outcome

/-! ## Between two visits

The invariant is set up before the first visit, and is used and renewed at each. It is used for
two facts about the element whose turn it is: it stands in the document (`attached`), and what it
has in it is what its children have become (`children_self`). -/

/-- The state after the visits of `done`, with those of `rest` still to come. -/
structure Progress (N : Tree) (done rest : List NodeId) (rep : NodeId → List NodeId) (t : Tree) :
    Prop where
  forest : t.IsForest
  size_le : N.size ≤ t.size
  node_eq : ∀ {x}, x.index < N.size → t.node x = N.node x
  rep_eq : ∀ {x}, x ∉ done → rep x = [x]
  /-- no visit is to come to a node that was moved -/
  settled : ∀ {p x}, x ∈ rep p → x ∈ rest → x = p
  /-- what stands where `p` stood is new, or stood at `p` or below it and was not replaced -/
  origin : ∀ {p x}, x ∈ rep p →
    (N.size ≤ x.index ∧ x.index < t.size) ∨ (rep x = [x] ∧ (x = p ∨ N.Below p x))
  /-- a node keeps its parent until one of the two is visited -/
  parent_eq : ∀ {x}, x.index < N.size → x ∉ done → (∀ p ∈ done, N.parent x ≠ some p) →
    t.parent x = N.parent x
  children_eq : ∀ {p}, p.index < N.size → rep p = [p] →
    t.children p = (N.children p).flatMap rep
  children_new : ∀ {x}, N.size ≤ x.index → t.children x = []
  label_new : ∀ {x}, N.size ≤ x.index → x.index < t.size → t.label x = .text

namespace Progress

variable {done rest : List NodeId} {rep : NodeId → List NodeId}

/-- Before the first visit every node stands for itself. -/
theorem start (h : N.IsForest) (rest : List NodeId) : Progress N [] rest (fun x => [x]) N where
  forest := h
  size_le := Nat.le_refl _
  node_eq _ := rfl
  rep_eq _ := rfl
  settled hx _ := List.mem_singleton.1 hx
  origin hx := Or.inr ⟨rfl, Or.inl (List.mem_singleton.1 hx)⟩
  parent_eq _ _ _ := rfl
  children_eq _ _ := (List.flatMap_singleton' _).symm
  children_new hx := Arena.children_eq_nil hx
  label_new hx hx' := absurd hx' (Nat.not_lt.2 hx)

/-- A node that was there from the start is not new. -/
theorem ne_fresh (pr : Progress N done rest rep t) {x : NodeId} (hx : x.index < N.size) :
    x ≠ ⟨t.size⟩ := by
  rintro rfl
  exact absurd hx (Nat.not_lt.2 pr.size_le)

/-- What stands where a node stood is in the arena. -/
theorem rep_lt (pr : Progress N done rest rep t) {x y : NodeId} (hx : x.index < N.size)
    (hy : y ∈ rep x) : y.index < t.size := by
  rcases pr.origin hy with ⟨-, hlt⟩ | ⟨-, rfl | hbelow⟩
  · exact hlt
  · exact Nat.lt_of_lt_of_le hx pr.size_le
  · exact Nat.lt_of_lt_of_le hbelow.index_lt pr.size_le

section Visit

variable (h : N.IsForest)
variable (split : (N.levelOrder root).reverse = done ++ e :: rest)
variable (pr : Progress N done (e :: rest) rep t)
include h split pr

/-- The element whose turn it is has not been visited, and so it stands for itself. -/
theorem rep_self : rep e = [e] :=
  pr.rep_eq (Tree.not_mem_done h split)

/-- What is above the element whose turn it is still stands. -/
theorem rep_above {q : NodeId} (hq : N.Below q e) : rep q = [q] :=
  pr.rep_eq (Tree.not_mem_done_of_below h split hq)

omit pr in
/-- What is visited is below the root, which is never replaced. -/
theorem below_root : N.Below root e :=
  Tree.below_of_mem_levelOrder h (Tree.mem_levelOrder_of_split split List.mem_cons_self)

omit pr in
/-- The element and its ancestors were there before the first visit. -/
theorem index_lt_above {q : NodeId} (hq : q = e ∨ N.Below q e) : q.index < N.size := by
  rcases hq with rfl | hq
  · exact (below_root h split).index_lt
  · obtain ⟨c, hc, -⟩ := hq.cases_child
    exact h.parent_lt (h.mem_iff.2 hc)

/-- The element and all that is above it have the parents that they had. -/
theorem parent_above {q : NodeId} (hq : q = e ∨ N.Below q e) : t.parent q = N.parent q := by
  refine pr.parent_eq (index_lt_above h split hq) ?_ ?_
  · rcases hq with rfl | hq
    · exact Tree.not_mem_done h split
    · exact Tree.not_mem_done_of_below h split hq
  · intro p hp hqp
    refine Tree.not_mem_done_of_below h split ?_ hp
    rcases hq with rfl | hq
    · exact Arena.below_of_parent hqp
    · exact (Arena.below_of_parent hqp).trans hq

/-- **The element stands in the document** when its turn comes. So no visit is skipped for want of a
parent, and every element has an outcome. -/
theorem attached : t.parent e ≠ none := by
  rw [parent_above h split pr (Or.inl rfl)]
  obtain ⟨p, hp, -⟩ := (below_root h split).cases_parent
  rw [hp]
  exact Option.some_ne_none p

/-- What the element has below it by then is what its children have become, in their order. -/
theorem children_self : t.children e = (N.children e).flatMap rep :=
  pr.children_eq (below_root h split).index_lt (rep_self h split pr)

/-- A node that is moved when `e` is unwrapped is not visited later. -/
theorem not_mem_rest_of_child {x : NodeId} (hx : x ∈ t.children e) : x ∉ rest := by
  intro hrest
  rw [children_self h split pr, List.mem_flatMap] at hx
  obtain ⟨p, hp, hx⟩ := hx
  obtain rfl : x = p := pr.settled hx (List.mem_cons_of_mem e hrest)
  have hdone : x ∈ done := Tree.mem_done_of_below h split
    (Tree.mem_levelOrder_of_mem_rest split hrest) (h.below_of_mem hp)
  exact Tree.not_mem_done_of_mem_rest h split hrest hdone

/-- Where the nodes come from that a visit leaves in the place of its element. -/
theorem origin_of_mem (o : Outcome c t e ys t') {x : NodeId} (hx : x ∈ ys) :
    (N.size ≤ x.index ∧ x.index < t'.size) ∨
      (Function.update rep e ys x = [x] ∧ (x = e ∨ N.Below e x)) := by
  have hsize := o.size_le
  cases o with
  | replaced =>
    rw [List.mem_singleton.1 hx, Arena.size_replace, Tree.createText, Arena.size_push]
    exact Or.inl ⟨pr.size_le, Nat.lt_succ_self _⟩
  | unwrapped =>
    rw [children_self h split pr, List.mem_flatMap] at hx
    obtain ⟨p, hp, hx⟩ := hx
    rcases pr.origin hx with ⟨hnew, hlt⟩ | ⟨hrep, hxp⟩
    · exact Or.inl ⟨hnew, Nat.lt_of_lt_of_le hlt hsize⟩
    · have hbelow : N.Below e x := by
        rcases hxp with rfl | hxp
        · exact h.below_of_mem hp
        · exact (h.below_of_mem hp).trans hxp
      have hxe : x ≠ e := by
        rintro rfl
        exact h.acyclic x hbelow
      rw [Function.update_of_ne hxe]
      exact Or.inr ⟨hrep, Or.inr hbelow⟩
  | kept =>
    rw [List.mem_singleton.1 hx, Function.update_self]
    exact Or.inr ⟨rfl, Or.inl rfl⟩

/-- No visit is to come to a node that this one has moved. -/
theorem settled_step (o : Outcome c t e ys t') {p x : NodeId}
    (hx : x ∈ Function.update rep e ys p) (hrest : x ∈ rest) : x = p := by
  rcases eq_or_ne p e with rfl | hp
  · rw [Function.update_self] at hx
    rcases o.cases_mem hx with hnew | hchild | hsame
    · have hlt := (Tree.below_of_mem_levelOrder h
        (Tree.mem_levelOrder_of_mem_rest split hrest)).index_lt
      exact absurd hnew (pr.ne_fresh hlt)
    · exact absurd hrest (not_mem_rest_of_child h split pr hchild)
    · exact hsame
  · rw [Function.update_of_ne hp] at hx
    exact pr.settled hx (List.mem_cons_of_mem e hrest)

/-- The visit adds its own nodes to those that were accounted for. -/
theorem origin_step (o : Outcome c t e ys t') {p x : NodeId}
    (hx : x ∈ Function.update rep e ys p) :
    (N.size ≤ x.index ∧ x.index < t'.size) ∨
      (Function.update rep e ys x = [x] ∧ (x = p ∨ N.Below p x)) := by
  rcases eq_or_ne p e with rfl | hp
  · rw [Function.update_self] at hx
    exact origin_of_mem h split pr o hx
  · rw [Function.update_of_ne hp] at hx
    -- `e` itself stands nowhere but in its own place, since its visit was still to come
    have hxe : x ≠ e := by
      rintro rfl
      exact hp (pr.settled hx List.mem_cons_self).symm
    rw [Function.update_of_ne hxe]
    exact (pr.origin hx).imp_left fun hnew => ⟨hnew.1, Nat.lt_of_lt_of_le hnew.2 o.size_le⟩

/-- A node loses its parent when it is visited or when its parent is, and at no other visit. -/
theorem parent_step (o : Outcome c t e ys t') {x : NodeId} (hx : x.index < N.size)
    (hdone : x ∉ done ++ [e]) (hparent : ∀ p ∈ done ++ [e], N.parent x ≠ some p) :
    t'.parent x = N.parent x := by
  rw [List.mem_append, List.mem_singleton, not_or] at hdone
  have hsame : t.parent x = N.parent x :=
    pr.parent_eq hx hdone.1 fun p hp => hparent p (List.mem_append_left [e] hp)
  rw [o.parent_eq pr.forest (attached h split pr) hdone.2, hsame]
  intro hys
  rcases o.cases_mem hys with hnew | hchild | he
  · exact pr.ne_fresh hx hnew
  · rw [pr.forest.mem_iff, hsame] at hchild
    exact hparent e (List.mem_append_right done List.mem_cons_self) hchild
  · exact hdone.2 he

/-- The children of a node that still stands: where `e` was one of them, `ys` are now. -/
theorem children_step (o : Outcome c t e ys t') {p : NodeId} (hp : p.index < N.size)
    (hrep : Function.update rep e ys p = [p]) :
    t'.children p = (N.children p).flatMap (Function.update rep e ys) := by
  have helt := (below_root h split).index_lt
  rcases eq_or_ne p e with rfl | hne
  -- if it is `e` that still stands, then `e` was kept and nothing has changed
  · rw [Function.update_self] at hrep
    obtain ⟨rfl, -, -⟩ := o.of_self pr.forest (Nat.lt_of_lt_of_le helt pr.size_le) hrep
    rw [children_self h split pr]
    refine List.flatMap_congr fun x hx => ?_
    rw [Function.update_of_ne (h.ne_of_mem hx)]
  · rw [Function.update_of_ne hne] at hrep
    rw [o.children_eq pr.forest (attached h split pr) hne, pr.children_eq hp hrep,
      Arena.splice_flatMap]
    refine List.flatMap_congr fun x hx => ?_
    rcases eq_or_ne x e with rfl | hx
    · rw [rep_self h split pr, Function.update_self, Arena.splice_cons_self, Arena.splice_nil,
        List.append_nil]
    · rw [Function.update_of_ne hx]
      refine Arena.splice_eq_self (fun hmem => hx ?_) ys
      exact (pr.settled hmem List.mem_cons_self).symm

/-- **One visit** takes the state on to the next. Each field has a lemma of its own above, and this
puts them together. -/
theorem step (o : Outcome c t e ys t') :
    Progress N (done ++ [e]) rest (Function.update rep e ys) t' where
  forest := o.isForest pr.forest
  size_le := Nat.le_trans pr.size_le o.size_le
  node_eq := by
    intro x hx
    rw [o.node_eq (Nat.lt_of_lt_of_le hx pr.size_le), pr.node_eq hx]
  rep_eq := by
    intro x hx
    rw [List.mem_append, List.mem_singleton, not_or] at hx
    rw [Function.update_of_ne hx.2, pr.rep_eq hx.1]
  settled := settled_step h split pr o
  origin := origin_step h split pr o
  parent_eq := parent_step h split pr o
  children_eq := children_step h split pr o
  children_new := by
    intro x hx
    have hxe : x ≠ e := by
      rintro rfl
      exact absurd (below_root h split).index_lt (Nat.not_lt.2 hx)
    rw [o.children_eq pr.forest (attached h split pr) hxe, pr.children_new hx, Arena.splice_nil]
  label_new := by
    intro x hx hx'
    rcases Nat.lt_or_ge x.index t.size with hlt | hge
    · rw [Tree.label, o.node_eq hlt]
      exact pr.label_new hx hlt
    · exact o.label_new hge hx'

end Visit

end Progress

/-! ## A whole run

`Run` is the loop as a relation, with the outcome of each visit at hand. What a run keeps is
proved by induction on it and read off for `visitAll` by `exists_run`. -/

/-- Visits of the elements `done` one after the other, that take `N` to `t`. -/
inductive Run (c : Converter) (N : Tree) : List NodeId → (NodeId → List NodeId) → Tree → Prop where
  | start : Run c N [] (fun x => [x]) N
  | visit {done : List NodeId} {rep : NodeId → List NodeId} {t t' : Tree} {e : NodeId}
    {ys : List NodeId} (run : Run c N done rep t) (h : c.visit t e = .ok t')
    (o : Outcome c t e ys t') : Run c N (done ++ [e]) (Function.update rep e ys) t'

/-- A run can be taken apart at its last visit, which is where a step is added. -/
theorem visitAll_concat (c : Converter) (t : Tree) (ids : List NodeId) (id : NodeId) :
    c.visitAll t (ids ++ [id]) = (c.visitAll t ids).bind fun u => c.visit u id := by
  rw [visitAll, List.foldlM_append, visitAll]
  simp only [List.foldlM_cons, List.foldlM_nil, bind_pure]
  rfl

theorem visitAll_singleton (c : Converter) (t : Tree) (id : NodeId) :
    c.visitAll t [id] = c.visit t id :=
  visitAll_concat c t [] id

/-- Where visits fail, one of them was the first to fail. -/
theorem exists_failure {ids : List NodeId} {error : Error} (h : c.visitAll N ids = .error error) :
    ∃ done e rest u, ids = done ++ e :: rest ∧ c.visitAll N done = .ok u ∧
      c.visit u e = .error error := by
  induction ids using List.reverseRecOn with
  | nil => cases h
  | append_singleton ids id ih =>
    rw [visitAll_concat] at h
    cases hids : c.visitAll N ids with
    | error error' =>
      rw [hids] at h
      cases h
      obtain ⟨done, e, rest, u, rfl, hvisit⟩ := ih hids
      exact ⟨done, e, rest ++ [id], u, by simp, hvisit⟩
    | ok u =>
      rw [hids] at h
      exact ⟨ids, id, [], u, rfl, hids, h⟩

/-- The relation follows the loop: what it ends in is what the loop computes. -/
theorem Run.visitAll_eq {done : List NodeId} {rep : NodeId → List NodeId} (r : Run c N done rep t) :
    c.visitAll N done = .ok t := by
  induction r with
  | start => rfl
  | visit run h o ih =>
    rw [visitAll_concat, ih]
    exact h

/-- By induction on the visits, each keeping the invariant. -/
theorem Run.progress (h : N.IsForest) {done : List NodeId} {rep : NodeId → List NodeId}
    (r : Run c N done rep t) :
    ∀ {rest : List NodeId}, (N.levelOrder root).reverse = done ++ rest →
      Progress N done rest rep t := by
  induction r with
  | start => exact fun _ => Progress.start h _
  | visit run _ o ih =>
    intro rest split
    rw [List.append_assoc, List.singleton_append] at split
    exact Progress.step h split (ih split) o

/-- Visits that all succeed are a run: none of them comes to an element that is gone. -/
theorem exists_run (h : N.IsForest) (done : List NodeId) :
    ∀ {rest : List NodeId} {t : Tree}, (N.levelOrder root).reverse = done ++ rest →
      c.visitAll N done = .ok t → ∃ rep, Run c N done rep t := by
  induction done using List.reverseRecOn with
  | nil =>
    intro rest t _ hvisit
    cases hvisit
    exact ⟨_, .start⟩
  | append_singleton done e ih =>
    intro rest t' split hvisit
    rw [List.append_assoc, List.singleton_append] at split
    rw [visitAll_concat] at hvisit
    rcases hbefore : c.visitAll N done with error | t
    · rw [hbefore] at hvisit
      cases hvisit
    · rw [hbefore] at hvisit
      obtain ⟨rep, run⟩ := ih split hbefore
      have hattached := Progress.attached h split (run.progress h split)
      obtain ⟨ys, o⟩ := exists_outcome hattached hvisit
      exact ⟨_, .visit run hvisit o⟩

/-- The conversion of `t` comes to the element `e` when the elements `done` were visited and those
of `rest` are still to come. The document is `u` at that moment. -/
structure Reaches (c : Converter) (t : Tree) (done : List NodeId) (e : NodeId)
    (rest : List NodeId) (u : Tree) : Prop where
  split : ((t.normalize c.options).levelOrder root).reverse = done ++ e :: rest
  visited : c.visitAll (t.normalize c.options) done = .ok u

/-- A visit that is reached comes after a run of those before it. -/
theorem Reaches.exists_run {u : Tree} {done rest : List NodeId} (r : c.Reaches t done e rest u)
    (h : t.WellFormed) :
    ∃ rep, Run c (t.normalize c.options) done rep u ∧
      Progress (t.normalize c.options) done (e :: rest) rep u := by
  have hforest := (Tree.trims_normalize t c.options).isForest h.forest
  obtain ⟨rep, run⟩ := Converter.exists_run hforest done r.split r.visited
  exact ⟨rep, run, run.progress hforest r.split⟩

/-- The document is a forest whenever an element has its turn. -/
theorem Reaches.isForest {u : Tree} {done rest : List NodeId} (r : c.Reaches t done e rest u)
    (h : t.WellFormed) : u.IsForest := by
  obtain ⟨rep, -, pr⟩ := r.exists_run h
  exact pr.forest

/-- Where the conversion comes to an element, the element stands in the document. -/
theorem Reaches.attached {u : Tree} {done rest : List NodeId} (r : c.Reaches t done e rest u)
    (h : t.WellFormed) : u.parent e ≠ none := by
  obtain ⟨rep, -, pr⟩ := r.exists_run h
  exact pr.attached ((Tree.trims_normalize t c.options).isForest h.forest) r.split

end Converter

end Tagdown
