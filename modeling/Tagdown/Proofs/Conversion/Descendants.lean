import Tagdown.Proofs.Conversion.Run
import Tagdown.Proofs.Document.History
import Tagdown.Proofs.Document.Markup

/-!
# What is below an element when it is visited

An element can be below another one at its visit only if its own visit came first and left it
where it was (`Run.kept`, `Progress.below_cases`). Where unmatched elements are unwrapped no visit
does so, and what an element has in it are texts alone. The same holds of the whole document in
the end, so that the Markdown is the text of the document (`descendants_converted`).

Comments have gone before, and texts are taken to have no children (`LeavesBare`), since what
is below one of them is never looked for.
-/

namespace Tagdown.Converter

open Tagdown.Tree (root)

variable {c : Converter} {N t u : Tree}

/-- The visit of `x` was one of `done`, and it left `x` where it was: the element had content or
was one that never has any, and no rule was for it. -/
def KeptBefore (c : Converter) (N : Tree) (done : List NodeId) (x : NodeId) : Prop :=
  ∃ before after v, done = before ++ x :: after ∧ c.visitAll N before = .ok v ∧
    (c.options.isVoid (v.tagName x) = true ∨ Text.isBlank (v.innerHtml x).toList = false) ∧
    c.rules.find? ⟨v, x⟩ c.options = none

/-- The rules have nothing for a node only if it was put to them and none is for it. -/
theorem replacement?_eq_none {n : NodeRef} (h : c.replacement? n = .ok none) :
    (c.options.isVoid n.tagName = true ∨ Text.isBlank n.innerHtml.toList = false) ∧
      c.rules.find? n c.options = none := by
  have hasked : c.IsAsked n := by
    by_contra hnot
    rw [replacement?_of_not_asked hnot] at h
    cases h
  refine ⟨hasked, ?_⟩
  cases hfind : c.rules.find? n c.options with
  | none => rfl
  | some entry =>
    rw [replacement?_of_asked hasked hfind] at h
    cases hrender : entry.2.render (decodeEntities n.innerHtml) n c.options <;>
      rw [hrender] at h <;> cases h

/-- An element that was visited and still stands was kept. -/
theorem Run.kept (h : N.IsForest) {done : List NodeId} {rep : NodeId → List NodeId}
    (r : Run c N done rep t) :
    ∀ {rest : List NodeId} {x : NodeId}, (N.levelOrder root).reverse = done ++ rest → x ∈ done →
      rep x = [x] → c.KeptBefore N done x ∧ c.options.unmatched = .keep := by
  induction r with
  | start =>
    intro rest x _ hx
    cases hx
  | @visit done rep t t' e ys run _ o ih =>
    intro rest x split hx hrep
    rw [List.append_assoc, List.singleton_append] at split
    have pr := run.progress h split
    -- either the last visit was that of `x`, or it was kept before that
    rcases eq_or_ne x e with rfl | hne
    · rw [Function.update_self] at hrep
      have hlt := (Progress.below_root h split).index_lt
      obtain ⟨-, hnone, hpolicy⟩ := o.of_self pr.forest (Nat.lt_of_lt_of_le hlt pr.size_le) hrep
      obtain ⟨hcontent, hfind⟩ := replacement?_eq_none hnone
      exact ⟨⟨done, [], t, rfl, run.visitAll_eq, hcontent, hfind⟩, hpolicy⟩
    · rw [Function.update_of_ne hne] at hrep
      rw [List.mem_append, List.mem_singleton, or_iff_left hne] at hx
      obtain ⟨⟨before, after, v, hdone, hv⟩, hpolicy⟩ := ih split hx hrep
      refine ⟨⟨before, after ++ [e], v, ?_, hv⟩, hpolicy⟩
      rw [hdone, List.append_assoc, List.cons_append]

/-- The node still stands where it stood, and all elements below it were visited. -/
structure Passed (N : Tree) (done : List NodeId) (rep : NodeId → List NodeId) (p : NodeId) :
    Prop where
  index_lt : p.index < N.size
  below_root : ∀ {x}, N.Below p x → N.Below root x
  stands : rep p = [p]
  mem_done : ∀ x ∈ N.levelOrder root, N.Below p x → x ∈ done

section Below

variable {done rest : List NodeId} {rep : NodeId → List NodeId} {e p : NodeId}

/-- An element at its visit. -/
theorem Progress.passed (h : N.IsForest)
    (split : (N.levelOrder root).reverse = done ++ e :: rest)
    (pr : Progress N done (e :: rest) rep u) : Passed N done rep e where
  index_lt := (below_root h split).index_lt
  below_root hx := (below_root h split).trans hx
  stands := pr.rep_self h split
  mem_done _ := Tree.mem_done_of_below h split

/-- The root when no visit is left. It is not visited itself. -/
theorem Progress.passed_root (h : N.WellFormed)
    (pr : Progress N (N.levelOrder root).reverse [] rep u) :
    Passed N (N.levelOrder root).reverse rep root where
  index_lt := h.root_lt
  below_root := id
  stands := by
    refine pr.rep_eq fun hmem => ?_
    exact h.forest.acyclic root
      (Tree.below_of_mem_levelOrder h.forest (List.mem_reverse.1 hmem))
  mem_done _ hx _ := List.mem_reverse.2 hx

/-- What is below a node that still stands is new, or still stands where it stood. -/
theorem Progress.below_cases (h : N.IsForest) (pr : Progress N done rest rep u)
    (hp : p.index < N.size) (stands : rep p = [p]) {x : NodeId} (hx : u.Below p x) :
    N.size ≤ x.index ∨ (rep x = [x] ∧ N.Below p x) := by
  have child : ∀ {q y}, q.index < N.size → rep q = [q] → u.parent y = some q →
      N.size ≤ y.index ∨ (rep y = [y] ∧ N.Below q y) := by
    intro q y hq hrep hy
    rw [← pr.forest.mem_iff, pr.children_eq hq hrep, List.mem_flatMap] at hy
    obtain ⟨z, hz, hy⟩ := hy
    rcases pr.origin hy with ⟨hnew, -⟩ | ⟨hrep, rfl | hbelow⟩
    · exact Or.inl hnew
    · exact Or.inr ⟨hrep, h.below_of_mem hz⟩
    · exact Or.inr ⟨hrep, (h.below_of_mem hz).trans hbelow⟩
  -- on the way down all nodes still stand where they stood, until one is new
  induction hx with
  | single hx => exact child hp stands hx
  | tail _ hyx ih =>
    rcases ih with hnew | ⟨hrep, hbelow⟩
    · rw [← pr.forest.mem_iff, pr.children_new hnew] at hyx
      cases hyx
    · rcases child hbelow.index_lt hrep hyx with hnew | ⟨hrep, hyx⟩
      · exact Or.inl hnew
      · exact Or.inr ⟨hrep, hbelow.trans hyx⟩

variable (h : N.Clean) (split : (N.levelOrder root).reverse = done ++ rest)
variable (r : Run c N done rep u) (passed : Passed N done rep p)
include h split r passed

/-- An element below a node that still stands, when all elements below it were visited. -/
theorem Run.kept_of_below {x : NodeId} (hx : u.Below p x) (helement : u.isElement x = true) :
    c.KeptBefore N done x ∧ c.options.unmatched = .keep := by
  have pr := r.progress h.wellFormed.forest split
  rcases pr.below_cases h.wellFormed.forest passed.index_lt passed.stands hx with
    hnew | ⟨hrep, hbelow⟩
  · rw [Tree.isElement, pr.label_new hnew hx.index_lt] at helement
    cases helement
  · rw [Tree.isElement, Tree.label, pr.node_eq hbelow.index_lt] at helement
    have horder : x ∈ N.levelOrder root :=
      h.mem_levelOrder.2 ⟨passed.below_root hbelow, helement⟩
    exact r.kept h.wellFormed.forest split (passed.mem_done x horder hbelow) hrep

/-- Where unmatched elements are unwrapped, no element is left but texts alone. -/
theorem Run.label_of_child (policy : c.options.unmatched = .unwrap) {x : NodeId}
    (hx : x ∈ u.children p) : u.label x = .text := by
  have pr := r.progress h.wellFormed.forest split
  have hbelow := pr.forest.below_of_mem hx
  rcases pr.below_cases h.wellFormed.forest passed.index_lt passed.stands hbelow with
    hnew | ⟨-, hN⟩
  · exact pr.label_new hnew hbelow.index_lt
  · have hnode := pr.node_eq hN.index_lt
    rcases h.cases_below (passed.below_root hN) with helement | ⟨htext, -⟩
    · have helement' : u.isElement x = true := by
        rwa [Tree.isElement, Tree.label, hnode]
      have := (r.kept_of_below h split passed hbelow helement').2
      rw [policy] at this
      cases this
    · rwa [Tree.label, hnode]

end Below

/-! ## When the last visit is over

The root takes the place of the element: all elements are below it, and all of them were visited. -/

section End

variable (h : N.Clean) (hvisit : c.visitAll N (N.levelOrder root).reverse = .ok u)
include h hvisit

/-- When all visits have succeeded, they are a run, and the root has been passed. -/
theorem exists_run_to_end :
    ∃ rep, Run c N (N.levelOrder root).reverse rep u ∧
      Progress N (N.levelOrder root).reverse [] rep u ∧
      Passed N (N.levelOrder root).reverse rep root := by
  have hforest := h.wellFormed.forest
  have split := (List.append_nil (N.levelOrder root).reverse).symm
  obtain ⟨rep, r⟩ := exists_run hforest _ split hvisit
  have pr := r.progress hforest split
  exact ⟨rep, r, pr, pr.passed_root h.wellFormed⟩

/-- The root is the document as before. -/
theorem label_root_at_end : u.label root = .document := by
  obtain ⟨rep, -, pr, -⟩ := exists_run_to_end h hvisit
  rw [Tree.label, pr.node_eq h.wellFormed.root_lt]
  exact (h.wellFormed.label_eq_document h.wellFormed.root_lt).2 rfl

/-- All elements are gone when unmatched ones are unwrapped. -/
theorem label_of_child_at_end (policy : c.options.unmatched = .unwrap) {x : NodeId}
    (hx : x ∈ u.children root) : u.label x = .text := by
  obtain ⟨rep, r, -, passed⟩ := exists_run_to_end h hvisit
  exact r.label_of_child h (List.append_nil _).symm passed policy hx

/-- The last document is printed as the values of its texts. -/
theorem finish_eq (policy : c.options.unmatched = .unwrap) :
    finish u = Text.mapChars Text.tidy (u.values (u.children root)) := by
  obtain ⟨rep, -, pr, -⟩ := exists_run_to_end h hvisit
  have hraw : Node.isRawTextTag (u.tagName root) = false := by
    rw [Tree.tagName, label_root_at_end h hvisit]
    decide
  have texts : ∀ x ∈ u.children root, u.label x = .text := fun x hx =>
    label_of_child_at_end h hvisit policy hx
  rw [finish, Tree.innerHtml_of_texts pr.forest texts, hraw, decodeEntities_writeText]

end End

/-- **Rules never see an element that is still to be converted.** Each element is visited
once, and stands in the document when it is visited. What is below it then are texts alone where
unmatched elements are unwrapped, and where they are kept, no other elements than these. In the
first case the Markdown is the text of the document in the end. -/
theorem descendants_converted (c : Converter) {t : Tree} (h : t.WellFormed)
    (bare : t.LeavesBare root) :
    (((t.normalize c.options).levelOrder root).Nodup ∧
      ∀ x, x ∈ (t.normalize c.options).levelOrder root ↔
        (t.normalize c.options).Below root x ∧ (t.normalize c.options).isElement x = true) ∧
    (∀ done e rest u, c.Reaches t done e rest u → u.parent e ≠ none ∧
      (c.options.unmatched = .unwrap → ∀ x ∈ u.children e, u.label x = .text) ∧
      (c.options.unmatched = .keep → ∀ x, u.Below e x → u.isElement x = true →
        c.KeptBefore (t.normalize c.options) done x)) ∧
    (c.options.unmatched = .unwrap → ∀ u,
      c.visitAll (t.normalize c.options) ((t.normalize c.options).levelOrder root).reverse = .ok u →
        (∀ x ∈ u.children root, u.label x = .text) ∧
        c.convertTree t = .ok (Text.mapChars Text.tidy (u.textContent root))) := by
  have clean := Tree.clean_normalize h bare c.options
  have hforest := clean.wellFormed.forest
  refine ⟨⟨Tree.nodup_levelOrder hforest root, fun x => clean.mem_levelOrder⟩, ?_, ?_⟩
  · intro done e rest u reaches
    obtain ⟨rep, r, pr⟩ := reaches.exists_run h
    -- the element and all above it are as they were when its turn comes
    have passed := pr.passed hforest reaches.split
    refine ⟨pr.attached hforest reaches.split, ?_, ?_⟩
    · intro policy x hx
      exact r.label_of_child clean reaches.split passed policy hx
    · intro _ x hx helement
      exact (r.kept_of_below clean reaches.split passed hx helement).1
  · intro policy u hvisit
    obtain ⟨rep, -, pr, -⟩ := exists_run_to_end clean hvisit
    have texts : ∀ x ∈ u.children root, u.label x = .text := fun x hx =>
      label_of_child_at_end clean hvisit policy hx
    refine ⟨texts, ?_⟩
    rw [Tree.textContent_of_texts pr.forest (Or.inl (label_root_at_end clean hvisit)) texts,
      ← finish_eq clean hvisit policy, convertTree, hvisit]
    rfl

/-- A paragraph with a marked word and a comment. -/
def markedPage : Tree :=
  Tree.empty.run
    [.createElement "body" [], .append root ⟨1⟩, .createElement "p" [], .append ⟨1⟩ ⟨2⟩,
     .createText "very ", .append ⟨2⟩ ⟨3⟩, .createElement "mark" [], .append ⟨2⟩ ⟨4⟩,
     .createText "new", .append ⟨4⟩ ⟨5⟩, .createComment "really", .append ⟨2⟩ ⟨6⟩]

/-- No rules, and elements are left where they are. -/
def keepAll : Converter where
  rules := .empty
  options := { voidElements := .empty, blockElements := .empty, preformatted := .empty,
               unmatched := .keep }

theorem descendants_converted_markedPage :
    markedPage.WellFormed ∧ markedPage.LeavesBare root ∧
      ∃ u, keepAll.Reaches markedPage [⟨4⟩] ⟨2⟩ [⟨1⟩] u ∧ u.parent ⟨2⟩ ≠ none ∧
        keepAll.KeptBefore (markedPage.normalize keepAll.options) [⟨4⟩] ⟨4⟩ := by
  have h : markedPage.WellFormed := Tree.WellFormed.run _ Tree.wellFormed_empty
    (Tree.allAllowed_of_areAllowed (by decide +kernel))
  have bare : markedPage.LeavesBare root := Tree.leavesBare_of_forall_lt _ (by decide +kernel)
  refine ⟨h, bare, ?_⟩
  have hmark : ((keepAll.visitAll (markedPage.normalize keepAll.options) [⟨4⟩]).toOption.map
      fun u => (u.parent ⟨4⟩, u.isElement ⟨4⟩)) = some (some ⟨2⟩, true) := by decide +kernel
  rcases hvisit : keepAll.visitAll (markedPage.normalize keepAll.options) [⟨4⟩] with error | u
  · rw [hvisit] at hmark
    cases hmark
  · rw [hvisit] at hmark
    obtain ⟨hparent, helement⟩ := Prod.mk.inj (Option.some.inj hmark)
    have reaches : keepAll.Reaches markedPage [⟨4⟩] ⟨2⟩ [⟨1⟩] u := ⟨by decide +kernel, hvisit⟩
    obtain ⟨-, visits, -⟩ := descendants_converted keepAll h bare
    obtain ⟨attached, -, kept⟩ := visits _ _ _ _ reaches
    exact ⟨u, reaches, attached, kept rfl ⟨4⟩ (Arena.below_of_parent hparent) helement⟩

end Tagdown.Converter
