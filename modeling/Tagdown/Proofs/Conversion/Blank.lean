import Tagdown.Proofs.Conversion.Descendants
import Tagdown.Proofs.Conversion.Failure
import Tagdown.Proofs.Conversion.Unwrapping
import Tagdown.Proofs.Text.BlankLines

/-!
# Elements in which there is nothing

An element that is blank goes without any rule being asked. It is looked at in the state that the
visits before have left, so an element with others in it is blank only if each of these was, and an
empty text stands in its place.

`Tree.IsHollow` says of the document as it was given that nothing but white space and elements is
in a node. This is kept by normalization (`Tree.IsHollow.normalize`), it holds of each element in
the node, and from the innermost elements on a visit leaves an empty text of each of them
(`Run.clearsHollow`).
-/

namespace Tagdown

open Text (isCollapsible)

namespace Tree

variable {t : Tree} {p x : NodeId} {options : Options} {ids : List NodeId}

/-- What is in the node, at any depth, is white space and elements, none of them void. There may be
comments as well. -/
structure IsHollow (t : Tree) (options : Options) (p : NodeId) : Prop where
  not_void : ∀ x, t.Reaches p x → options.isVoid (t.tagName x) = false
  blank : (t.textContent p).toList.all isCollapsible = true

theorem all_gathered_of_mem {keep : Char → Bool} (hall : (t.gathered ids).toList.all keep = true)
    (hx : x ∈ ids) : (t.gathered [x]).toList.all keep = true := by
  obtain ⟨before, after, rfl⟩ := List.append_of_mem hx
  rw [gathered_append, gathered_cons, String.toList_append, String.toList_append, List.all_append,
    List.all_append, Bool.and_eq_true, Bool.and_eq_true] at hall
  exact hall.2.1

namespace IsHollow

/-- What is directly in a hollow node. -/
theorem all_gathered (hollow : t.IsHollow options p) (h : t.IsForest)
    (hp : (t.label p).isLeaf = false) (hx : x ∈ t.children p) :
    (t.gathered [x]).toList.all isCollapsible = true := by
  have hblank := hollow.blank
  rw [textContent_eq_gathered h hp] at hblank
  exact all_gathered_of_mem hblank hx

/-- An element in a hollow node is hollow. -/
theorem of_child (hollow : t.IsHollow options p) (h : t.IsForest)
    (hp : (t.label p).isLeaf = false) (hx : x ∈ t.children p) (helement : t.isElement x = true) :
    t.IsHollow options x where
  not_void y hy := by
    have hmem : x ∈ t.elementChildren p := List.mem_filter.2 ⟨hx, helement⟩
    exact hollow.not_void y ((reaches_of_mem h hmem).trans hy)
  blank := by
    rw [textContent_eq_gathered h (Label.isLeaf_of_isElement helement),
      ← gathered_of_element h helement]
    exact hollow.all_gathered h hp hx

theorem of_reaches (hollow : t.IsHollow options p) (h : t.IsForest)
    (hp : (t.label p).isLeaf = false) (hx : t.Reaches p x) : t.IsHollow options x := by
  induction hx with
  | single hx => exact hollow.of_child h hp (h.mem_iff.2 hx.1) hx.2
  | tail hq hx ih =>
    exact ih.of_child h (Label.isLeaf_of_isElement (Reaches.isElement hq)) (h.mem_iff.2 hx.1) hx.2

/-- Normalization fills nothing. -/
theorem normalize (hollow : t.IsHollow options p) (h : t.WellFormed) (hp : t.Shown p) :
    (t.normalize options).IsHollow options p := by
  have trims := trims_normalize t options
  refine ⟨fun x hx => ?_, ?_⟩
  · rw [tagName, trims.label_eq]
    refine hollow.not_void x (Relation.TransGen.mono (fun q y hy => ?_) p x hx)
    refine ⟨trims.parent_eq h.forest hy.1, ?_⟩
    rw [isElement, ← trims.label_eq]
    exact hy.2
  · rw [← solid_eq_nil_iff, solid_textContent_normalize h options hp, solid_eq_nil_iff]
    exact hollow.blank

end IsHollow

end Tree

namespace Converter

open Tagdown.Tree (root)

variable {c : Converter} {N t u : Tree} {e p x : NodeId}
variable {done rest : List NodeId} {rep : NodeId → List NodeId}

/-! ## Empty texts

What is left of a hollow element is an empty text and not nothing at all. So the texts in the
elements around it are those that stood there before, with empty ones between. -/

/-- An empty text stands where the node stood. -/
def LeavesEmpty (rep : NodeId → List NodeId) (u : Tree) (x : NodeId) : Prop :=
  ∃ y, rep x = [y] ∧ u.label y = .text ∧ u.value y = ""

/-- Each element that was visited, and in which there was nothing, has left an empty text. -/
def ClearsHollow (c : Converter) (N : Tree) (done : List NodeId) (rep : NodeId → List NodeId)
    (u : Tree) : Prop :=
  ∀ x ∈ done, c.options.isVoid (N.tagName x) = false → N.IsHollow c.options x →
    LeavesEmpty rep u x

/-- There are no comments in the nodes that show. -/
def HasNoComments (N : Tree) : Prop :=
  ∀ p x, N.Shown p → x ∈ N.children p → N.label x ≠ .comment

theorem hasNoComments_normalize (h : t.WellFormed) (options : Options) :
    HasNoComments (t.normalize options) := by
  intro p x hp hx
  exact Tree.label_normalize_ne_comment h
    (hp.imp_right (Tree.reaches_normalize_iff h options p).1) hx

section Passed

variable (h : N.WellFormed) (noComments : HasNoComments N)
variable (split : (N.levelOrder root).reverse = done ++ rest)
variable (pr : Progress N done rest rep u) (clears : ClearsHollow c N done rep u)
variable (passed : Passed N done rep p) (hp : N.Shown p) (hollow : N.IsHollow c.options p)
include h noComments split pr clears passed hp hollow

/-- Where all elements in a hollow node were visited, white space is left in it, and nothing
else. -/
theorem Progress.blank_of_hollow {y : NodeId} (hy : y ∈ u.children p) :
    u.label y = .text ∧ (u.value y).toList.all isCollapsible = true := by
  rw [pr.children_eq passed.index_lt passed.stands, List.mem_flatMap] at hy
  obtain ⟨x, hx, hy⟩ := hy
  have hbelow := hp.below_of_mem h hx
  have hleaf := h.isLeaf_eq_false hp
  rcases hlabel : N.label x with _ | ⟨tag, attributes⟩ | _ | _
  · exact absurd hlabel (h.label_ne_document hbelow)
  · have helement : N.isElement x = true := by
      rw [Tree.isElement, hlabel]
      rfl
    have hmem : x ∈ N.levelOrder root := (Tree.mem_levelOrder_iff_reaches h.forest).2
      ((hp.of_child h hx helement).reaches hbelow h.forest)
    have hvoid := hollow.not_void x
      (Tree.reaches_of_mem h.forest (List.mem_filter.2 ⟨hx, helement⟩))
    obtain ⟨z, hz, htext, hempty⟩ :=
      clears x (passed.mem_done x hmem (h.forest.below_of_mem hx)) hvoid
        (hollow.of_child h.forest hleaf hx helement)
    rw [hz, List.mem_singleton] at hy
    rw [hy, hempty]
    exact ⟨htext, rfl⟩
  · -- a text is visited by nobody
    have notDone : x ∉ done := by
      intro hdone
      have hmem : x ∈ (N.levelOrder root).reverse := split ▸ List.mem_append_left rest hdone
      have helement := ((Tree.mem_levelOrder_iff_reaches h.forest).1
        (List.mem_reverse.1 hmem)).isElement
      rw [Tree.isElement, hlabel] at helement
      cases helement
    rw [pr.rep_eq notDone, List.mem_singleton] at hy
    have hnode := pr.node_eq hbelow.index_lt
    have hall := hollow.all_gathered h.forest hleaf hx
    rw [Tree.gathered_singleton, Tree.markup_eq h.forest, Node.gatherText_of_text hlabel] at hall
    rw [hy, Tree.label, Tree.value, hnode]
    exact ⟨hlabel, hall⟩
  · exact absurd hlabel (noComments p x hp hx)

/-- What is left in it is a text of white space. -/
theorem Progress.values_of_hollow :
    (∀ y ∈ u.children p, u.label y = .text) ∧
      (u.values (u.children p)).toList.all isCollapsible = true := by
  have each := fun y => pr.blank_of_hollow h noComments split clears passed hp hollow (y := y)
  refine ⟨fun y hy => (each y hy).1, ?_⟩
  generalize u.children p = ids at each
  induction ids with
  | nil => rfl
  | cons y ids ih =>
    rw [Tree.values_cons, String.toList_append, List.all_append,
      (each y List.mem_cons_self).2, ih fun z hz => each z (List.mem_cons_of_mem y hz)]
    rfl

end Passed

/-! ## One visit

When a hollow element has its turn, the hollow elements in it are empty texts already. What it
has in it is white space then, and it is blank. -/

/-- The visit of `x` puts an empty text into its place. It does so whatever the rules are, and none
of them is asked. -/
structure Clears (c : Converter) (u u' : Tree) (x : NodeId) : Prop where
  not_asked : ¬ c.IsAsked ⟨u, x⟩
  visit_eq : ∀ rules : RuleSet, ({ c with rules := rules } : Converter).visit u x = .ok u'
  exists_slot : ∃ p before after y, u.children p = before ++ x :: after ∧
    u'.children p = before ++ y :: after ∧ u'.label y = .text ∧ u'.value y = ""

theorem exists_clears (h : u.IsForest) (attached : u.parent x ≠ none)
    (hnot : ¬ c.IsAsked ⟨u, x⟩) : ∃ u', Clears c u u' x := by
  refine ⟨(u.createText "").1.replace x ⟨u.size⟩, hnot, fun rules => ?_, ?_⟩
  · have hblank := replacement?_of_not_asked (c := { c with rules := rules }) hnot
    rw [visit, if_neg (by simpa using attached), hblank]
    rfl
  · obtain ⟨p, hparent⟩ := Option.ne_none_iff_exists'.1 attached
    obtain ⟨before, after, hchildren⟩ := List.append_of_mem (h.mem_iff.2 hparent)
    refine ⟨p, before, after, ⟨u.size⟩, hchildren, ?_, ?_, ?_⟩
    · have hnodup := h.nodup p
      rw [hchildren] at hnodup
      rw [Tree.createText, children_replace_fresh h _ attached, hchildren,
        Arena.splice_middle hnodup]
      rfl
    · rw [Tree.label, Tree.node_fresh]
    · rw [Tree.value, Tree.node_fresh]

section Visit

variable (h : N.WellFormed) (noComments : HasNoComments N)
variable (split : (N.levelOrder root).reverse = done ++ e :: rest)
variable (pr : Progress N done (e :: rest) rep u) (clears : ClearsHollow c N done rep u)
include h noComments split pr clears

/-- A hollow element is blank when its turn comes. -/
theorem not_isAsked_of_hollow (hvoid : c.options.isVoid (N.tagName e) = false)
    (hollow : N.IsHollow c.options e) : ¬ c.IsAsked ⟨u, e⟩ := by
  have hreached : N.Reaches root e := (Tree.mem_levelOrder_iff_reaches h.forest).1
    (Tree.mem_levelOrder_of_split split List.mem_cons_self)
  obtain ⟨texts, blank⟩ := pr.values_of_hollow h noComments split clears
    (pr.passed h.forest split) (Or.inr hreached) hollow
  have htag : u.tagName e = N.tagName e :=
    congrArg (fun n => n.label.name) (pr.node_eq hreached.below.index_lt)
  rintro (hvoid' | hfull)
  · rw [NodeRef.tagName, htag, hvoid] at hvoid'
    cases hvoid'
  · rw [NodeRef.innerHtml, Tree.innerHtml_of_texts pr.forest texts,
      Node.isBlank_writeText blank] at hfull
    cases hfull

/-- A visit leaves an empty text of a hollow element, and keeps the texts of those before it. -/
theorem ClearsHollow.step {ys : List NodeId} {u' : Tree} (o : Outcome c u e ys u') :
    ClearsHollow c N (done ++ [e]) (Function.update rep e ys) u' := by
  intro x hx hvoid hollow
  rw [List.mem_append, List.mem_singleton] at hx
  by_cases hxe : x = e
  · subst hxe
    rw [LeavesEmpty, Function.update_self]
    -- the element is blank, so the visit can only have put an empty text in its place
    have hblank := replacement?_of_not_asked
      (not_isAsked_of_hollow h noComments split pr clears hvoid hollow)
    cases o with
    | @replaced markdown hmarkdown =>
      obtain rfl : markdown = "" := by
        rw [hblank] at hmarkdown
        exact (Option.some.inj (Except.ok.inj hmarkdown)).symm
      refine ⟨⟨u.size⟩, rfl, ?_, ?_⟩
      · rw [Tree.label, Tree.node_fresh]
      · rw [Tree.value, Tree.node_fresh]
    | unwrapped hnone =>
      rw [hblank] at hnone
      cases hnone
    | kept hnone =>
      rw [hblank] at hnone
      cases hnone
  -- a text that was put in earlier is left as it is
  · have hdone := hx.resolve_right hxe
    obtain ⟨y, hy, htext, hempty⟩ := clears x hdone hvoid hollow
    have hlt : x.index < N.size := (Tree.below_of_mem_levelOrder h.forest
      (List.mem_reverse.1 (split ▸ List.mem_append_left (e :: rest) hdone))).index_lt
    have hnode := o.node_eq (pr.rep_lt hlt (hy ▸ List.mem_singleton_self y))
    rw [LeavesEmpty, Function.update_of_ne hxe]
    refine ⟨y, hy, ?_, ?_⟩
    · rw [Tree.label, hnode]
      exact htext
    · rw [Tree.value, hnode]
      exact hempty

end Visit

/-! ## A whole run

By induction on the run. The statement is about all elements that were visited, since what is
left of an element depends on those in it. -/

/-- **Of each hollow element an empty text is left.** By induction on the run: at each visit the
hollow elements inside have been visited already. -/
theorem Run.clearsHollow (h : N.WellFormed) (noComments : HasNoComments N)
    (r : Run c N done rep u) :
    ∀ {rest : List NodeId}, (N.levelOrder root).reverse = done ++ rest →
      ClearsHollow c N done rep u := by
  induction r with
  | start =>
    intro rest _ x hx
    cases hx
  | visit run _ o ih =>
    intro rest split
    rw [List.append_assoc, List.singleton_append] at split
    exact .step h noComments split (run.progress h.forest split) (ih split) o

/-- What is reached is an element of the document that was given. -/
theorem Reaches.reaches_root (r : c.Reaches t done x rest u) (h : t.WellFormed) :
    t.Reaches root x := by
  have forest := (Tree.trims_normalize t c.options).isForest h.forest
  exact (Tree.reaches_normalize_iff h c.options x).1 ((Tree.mem_levelOrder_iff_reaches forest).1
    (Tree.mem_levelOrder_of_split r.split List.mem_cons_self))

theorem Reaches.exists_clears (r : c.Reaches t done x rest u) (h : t.WellFormed)
    (hvoid : c.options.isVoid (t.tagName x) = false) (hollow : t.IsHollow c.options x) :
    ∃ u', Clears c u u' x := by
  have trims := Tree.trims_normalize t c.options
  have wf := trims.wellFormed h
  have noComments := hasNoComments_normalize h c.options
  obtain ⟨rep, run, pr⟩ := r.exists_run h
  have hvoid' : c.options.isVoid ((t.normalize c.options).tagName x) = false := by
    rw [Tree.tagName, trims.label_eq]
    exact hvoid
  exact Converter.exists_clears pr.forest (r.attached h)
    (not_isAsked_of_hollow wf noComments r.split pr (run.clearsHollow wf noComments r.split) hvoid'
      (hollow.normalize h (Or.inr (r.reaches_root h))))

/-- After the last visit there is white space in a hollow document, and nothing else. -/
theorem finish_of_hollow (h : t.WellFormed) (hollow : t.IsHollow c.options root)
    (hvisit : c.visitAll (t.normalize c.options)
      ((t.normalize c.options).levelOrder root).reverse = .ok u) : finish u = "" := by
  have wf := (Tree.trims_normalize t c.options).wellFormed h
  have noComments := hasNoComments_normalize h c.options
  have split := (List.append_nil ((t.normalize c.options).levelOrder root).reverse).symm
  obtain ⟨rep, run⟩ := exists_run wf.forest _ split hvisit
  have pr := run.progress wf.forest split
  obtain ⟨texts, blank⟩ := pr.values_of_hollow wf noComments split
    (run.clearsHollow wf noComments split) (pr.passed_root wf) (Or.inl rfl)
    (hollow.normalize h (Or.inl rfl))
  have hroot : u.label root = .document := by
    rw [Tree.label_of_node_eq (pr.node_eq wf.root_lt)]
    exact (wf.label_eq_document wf.root_lt).2 rfl
  rw [finish_of_texts pr.forest hroot texts, Tree.gathered,
    Tree.gatherTexts_of_texts pr.forest texts, Text.mapChars,
    Text.tidy_of_isBlank (Text.isBlank_of_all blank)]

/-- **No rule is asked about what is blank.** Where an element and those in it are not void and have
nothing but white space and comments in them, the visit of each of them puts an empty text into its
place, with any rules and any policy. If the whole document is such, no visit fails and there is no
Markdown. -/
theorem clears_of_hollow (c : Converter) {t : Tree} (h : t.WellFormed) :
    (∀ e, t.isElement e = true → c.options.isVoid (t.tagName e) = false →
      t.IsHollow c.options e → ∀ x, x = e ∨ t.Reaches e x →
        ∀ done rest u, c.Reaches t done x rest u → ∃ u', Clears c u u' x) ∧
    (t.IsHollow c.options root → c.convertTree t = .ok "") := by
  refine ⟨fun e helement hvoid hollow x hx done rest u r => ?_, fun hollow => ?_⟩
  · rcases hx with rfl | hx
    · exact r.exists_clears h hvoid hollow
    · exact r.exists_clears h (hollow.not_void x hx)
        (hollow.of_reaches h.forest (Label.isLeaf_of_isElement helement) hx)
  · have hroot := h.isLeaf_eq_false (p := root) (Or.inl rfl)
    -- a conversion can only stop at an element that is asked about, and here none is
    obtain ⟨markdown, hmarkdown⟩ : ∃ markdown, c.convertTree t = .ok markdown := by
      refine exists_markdown h fun done x key source stops => ?_
      obtain ⟨rest, u, rule, r, hasked, -⟩ := stops
      have hreached := r.reaches_root h
      obtain ⟨u', clears⟩ := r.exists_clears h (hollow.not_void x hreached)
        (hollow.of_reaches h.forest hroot hreached)
      exact clears.not_asked hasked
    rw [hmarkdown]
    rw [convertTree] at hmarkdown
    cases hvisit : c.visitAll (t.normalize c.options)
      ((t.normalize c.options).levelOrder root).reverse with
    | error error =>
      rw [hvisit] at hmarkdown
      cases hmarkdown
    | ok u =>
      rw [hvisit] at hmarkdown
      rw [← Except.ok.inj hmarkdown, finish_of_hollow h hollow hvisit]

/-- A block with a comment, a line break, and two spans in it, one of them empty and one with a
space in it. -/
def emptyForm : Tree :=
  Tree.empty.run
    [.createElement "div" [], .append root ⟨1⟩, .createComment "name", .append ⟨1⟩ ⟨2⟩,
     .createElement "span" [], .append ⟨1⟩ ⟨3⟩, .createText "\n", .append ⟨1⟩ ⟨4⟩,
     .createElement "span" [], .append ⟨1⟩ ⟨5⟩, .createText " ", .append ⟨5⟩ ⟨6⟩]

/-- Rules of which no template is one, and elements that no rule is for are left where they are. -/
def brokenRules : Converter where
  rules := ⟨[("block", .ofTemplate (.tagName "div") "\x7b"),
    ("any", .ofTemplate (.tagName "span") "\x7d")]⟩
  options := { voidElements := .empty, blockElements := .empty, preformatted := .empty,
               unmatched := .keep }

theorem clears_of_hollow_emptyForm :
    emptyForm.WellFormed ∧ emptyForm.isElement ⟨1⟩ = true ∧ emptyForm.Reaches ⟨1⟩ ⟨5⟩ ∧
      emptyForm.IsHollow brokenRules.options ⟨1⟩ ∧
      (∃ u u', brokenRules.Reaches emptyForm [] ⟨5⟩ [⟨3⟩, ⟨1⟩] u ∧ Clears brokenRules u u' ⟨5⟩) ∧
      brokenRules.convertTree emptyForm = .ok "" := by
  have h : emptyForm.WellFormed := Tree.WellFormed.run _ Tree.wellFormed_empty
    (Tree.allAllowed_of_areAllowed (by decide +kernel))
  have facts : emptyForm.isElement ⟨1⟩ = true ∧ emptyForm.isElement ⟨5⟩ = true ∧
      emptyForm.parent ⟨5⟩ = some ⟨1⟩ ∧
      (emptyForm.textContent ⟨1⟩).toList.all isCollapsible = true ∧
      (emptyForm.textContent root).toList.all isCollapsible = true ∧
      ((emptyForm.normalize brokenRules.options).levelOrder root).reverse =
        [] ++ ⟨5⟩ :: [⟨3⟩, ⟨1⟩] := by decide +kernel
  obtain ⟨helement, hspan, hparent, hblank, hblankRoot, split⟩ := facts
  have hollow : emptyForm.IsHollow brokenRules.options ⟨1⟩ := ⟨fun _ _ => rfl, hblank⟩
  have hreached : emptyForm.Reaches ⟨1⟩ ⟨5⟩ := .single ⟨hparent, hspan⟩
  have r : brokenRules.Reaches emptyForm [] ⟨5⟩ [⟨3⟩, ⟨1⟩]
      (emptyForm.normalize brokenRules.options) := ⟨split, rfl⟩
  obtain ⟨visits, whole⟩ := clears_of_hollow brokenRules h
  obtain ⟨u', clears⟩ := visits ⟨1⟩ helement rfl hollow ⟨5⟩ (Or.inr hreached) _ _ _ r
  exact ⟨h, helement, hreached, hollow, ⟨_, u', r, clears⟩, whole ⟨fun _ _ => rfl, hblankRoot⟩⟩

end Converter

end Tagdown
