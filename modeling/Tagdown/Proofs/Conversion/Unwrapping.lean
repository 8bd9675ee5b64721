import Tagdown.Proofs.Conversion.Run
import Tagdown.Proofs.LevelOrder.Queue
import Tagdown.Proofs.Normalize.Words
import Tagdown.Proofs.Rule.Bundled

/-!
# What is left when all elements are unwrapped

An element that no rule is for gives way to its children, which changes no text around it
(`Tree.gathered_children_eq`). So if no rule is for any element, and no element is taken out with
white space in it, the Markdown is the text of the normalized document in its final form
(`Converter.convertTree_of_spares`).

With the boundaries of the blocks, what kept words apart may be gone: normalization has dropped the
white space beside a block, and unwrapping drops the block. Which words this runs together is said
by `Converter.words_convertTree_eq_iff`. Two blocks with a space between them are enough
(`Converter.words_convertTree_neighbours_ne`).
-/

namespace Tagdown

open Arena (splice)

namespace Tree

variable {t u : Tree} {e x p : NodeId} {ys : List NodeId}

/-! ## The text of some nodes, when one gives way to others

Unwrapping puts the children of an element in its place, and these have the text that it had. The
text around it is known by the texts of the nodes in the row, and so is all text further up. -/

/-- Some nodes in the place of one that has the same text. -/
theorem gathered_splice (same : t.gathered ys = t.gathered [e]) (ids : List NodeId) :
    t.gathered (splice e ys ids) = t.gathered ids := by
  induction ids with
  | nil => rfl
  | cons x ids ih =>
    rw [gathered_cons, ← ih]
    rcases eq_or_ne x e with rfl | hx
    · rw [Arena.splice_cons_self, gathered_append, same]
    · rw [Arena.splice_cons_of_ne hx, gathered_cons]

/-- An element adds the text that is in it. -/
theorem gathered_of_element (h : t.IsForest) (he : t.isElement e = true) :
    t.gathered [e] = t.gathered (t.children e) := by
  rw [gathered_singleton, gathered, markup_eq h,
    Rose.gatherText_of_element (show (t.node e).label.isElement = true from he)]

/-- Where a node is replaced by others with the same text, all texts around it stay as they were.
Nodes that are new in `u` count as empty in `t`. -/
theorem gathered_children_eq (ht : t.IsForest) (hu : u.IsForest)
    (children : ∀ p, p ≠ e → u.children p = splice e ys (t.children p)) (hys : e ∉ ys)
    (same : t.gathered ys = t.gathered [e])
    (nodes : ∀ x, u.node x = t.node x ∨ (u.gathered [x] = "" ∧ t.gathered [x] = ""))
    (x : NodeId) : x ≠ e → u.gathered (u.children x) = t.gathered (t.children x) := by
  induction x using hu.induction_below with
  | step x ih =>
    intro hx
    have each : ∀ y ∈ u.children x, u.gathered [y] = t.gathered [y] := by
      intro y hy
      rcases nodes y with hnode | ⟨hempty, hempty'⟩
      · refine gathered_singleton_congr ht hu hnode (ih y hy ?_)
        rintro rfl
        rw [children x hx, Arena.mem_splice] at hy
        rcases hy with ⟨-, hne⟩ | ⟨-, hmem⟩
        · exact hne rfl
        · exact hys hmem
      · rw [hempty, hempty']
    rw [gathered_congr each, children x hx, gathered_splice same]

/-! ## Blank elements

A blank element is not unwrapped but left out, with the white space in it. So the text is kept
only where no element has white space and nothing else to print. -/

/-- White space is all that there is to print of the element, and some of it there is. As it is no
void element, it goes when it is visited, and the white space with it. -/
def SpaceOnly (t : Tree) (options : Options) (x : NodeId) : Prop :=
  options.isVoid (t.tagName x) = false ∧ t.textContent x ≠ "" ∧
    Text.isBlank (Node.writeText (Node.isRawTextTag (t.tagName x)) (t.textContent x)).toList = true

instance (t : Tree) (options : Options) (x : NodeId) : Decidable (t.SpaceOnly options x) :=
  inferInstanceAs (Decidable (_ ∧ _ ∧ _))

end Tree

namespace Node

/-- Where nothing is printed but white space, there are texts and comments only. -/
theorem isBlank_writeText_gatherTexts {raw : Bool} {ts : List (Rose Node)}
    (h : Text.isBlank (writeAll raw ts).toList = true) :
    Text.isBlank (writeText raw (gatherTexts ts)).toList = true := by
  induction ts with
  | nil => rw [gatherTexts, writeText_empty]; rfl
  | cons t ts ih =>
    rw [writeAll, String.toList_append, Text.isBlank, List.all_append, Bool.and_eq_true] at h
    obtain ⟨first, rest⟩ := h
    rw [gatherTexts, writeText_append, String.toList_append, Text.isBlank, List.all_append,
      Bool.and_eq_true]
    refine ⟨?_, ih rest⟩
    obtain ⟨n, children⟩ := t
    rcases hlabel : n.label with _ | ⟨tag, attributes⟩ | _ | _
    · rw [gatherText, hlabel, writeText_empty]
      rfl
    · -- an element is printed with a bracket in front
      exfalso
      rw [write, hlabel] at first
      have bracket : '<' ∈ (openTag tag attributes).toList := by simp [openTag]
      have hmem : '<' ∈ (if (children.isEmpty && isVoidTag tag) = true then openTag tag attributes
          else openTag tag attributes ++ writeAll (isRawTextTag tag) children ++
            closeTag tag).toList := by
        split
        · exact bracket
        · simp [bracket]
      exact absurd (List.all_eq_true.1 first _ hmem) (by decide)
    · rwa [write_of_text raw hlabel, ← gatherText_of_text hlabel children] at first
    · rw [gatherText, hlabel, writeText_empty]
      rfl

end Node

namespace Tree

variable {t : Tree} {p x : NodeId} {options : Options}

theorem gathered_of_fresh (h : t.IsForest) (hx : t.size ≤ x.index) : t.gathered [x] = "" := by
  have hnode : t.node x = .emptyDocument := by
    rw [node, Arena.payload?, Array.getElem?_eq_none hx]
    rfl
  rw [gathered_singleton, markup_eq h, hnode, Node.gatherText]
  rfl

theorem Shown.reaches (hp : t.Shown p) (hbelow : t.Below root p) (h : t.IsForest) :
    t.Reaches root p := by
  rcases hp with rfl | hp
  · exact absurd hbelow (h.acyclic root)
  · exact hp

/-- No comment is left below a node that shows. -/
theorem label_normalize_ne_comment (h : t.WellFormed) (hp : t.Shown p)
    (hx : x ∈ (t.normalize options).children p) : (t.normalize options).label x ≠ .comment := by
  have joined : ((t.normalize options).row p).Joined := by
    rw [row_normalize_of_shown h options hp, Row.normalized_eq]
    refine (Row.normal_settle (Row.joined_joinTexts fun r hr => ?_)).toJoined
    obtain ⟨r', hr', rfl⟩ := List.mem_map.1 hr
    rw [Rose.kind_normalized]
    simpa using (List.mem_filter.1 hr').2
  exact label_ne_comment joined hx

end Tree

namespace Converter

open Tagdown.Tree (root)

variable {c : Converter} {N t t' u : Tree} {e : NodeId} {ys done rest : List NodeId}

/-! ## One visit

A visit that finds no rule leaves either the children of the element or an empty text in its
place. In both cases the row has the text that it had. -/

/-- No rule is for an element of `N`, whatever has become of the document around it. -/
def Spares (c : Converter) (N : Tree) : Prop :=
  ∀ (u : Tree) (x : NodeId), N.Reaches root x → u.label x = N.label x →
    c.rules.find? ⟨u, x⟩ c.options = none

theorem exists_visit (attached : t.parent e ≠ none) {markdown : Option String}
    (h : c.replacement? ⟨t, e⟩ = .ok markdown) :
    ∃ ys t', c.visit t e = .ok t' ∧ Outcome c t e ys t' := by
  have hvisit : ∃ t', c.visit t e = .ok t' := by
    rw [visit, if_neg (by simpa using attached), h]
    exact ⟨_, rfl⟩
  obtain ⟨t', ht'⟩ := hvisit
  obtain ⟨ys, o⟩ := exists_outcome attached ht'
  exact ⟨ys, t', ht', o⟩

/-- An element that no rule is for is replaced only if nothing is in it. -/
theorem replacement?_of_find?_eq_none (h : t.IsForest) (he : t.isElement e = true)
    (hnone : c.rules.find? ⟨t, e⟩ c.options = none) (hspace : ¬ t.SpaceOnly c.options e) :
    c.replacement? ⟨t, e⟩ = .ok none ∨
      (c.replacement? ⟨t, e⟩ = .ok (some "") ∧ t.gathered [e] = "") := by
  have text : t.textContent e = t.gathered [e] := by
    rw [Tree.textContent_eq_gathered h (Label.isLeaf_of_isElement he),
      Tree.gathered_of_element h he]
  rw [replacement?]
  split
  · rename_i hblank
    obtain ⟨hvoid, hinner⟩ := Bool.and_eq_true_iff.1 hblank
    refine Or.inr ⟨rfl, ?_⟩
    by_contra hne
    refine hspace ⟨Bool.eq_false_of_not_eq_true' hvoid, by rwa [text], ?_⟩
    rw [text, Tree.gathered_of_element h he]
    rw [NodeRef.innerHtml, Tree.innerHtml, Tree.markup_eq h] at hinner
    exact Node.isBlank_writeText_gatherTexts hinner
  · left
    rw [hnone]

theorem Outcome.gathered_children (o : Outcome c t e ys t') (h : t.IsForest)
    (attached : t.parent e ≠ none) (he : t.isElement e = true)
    (policy : c.options.unmatched = .unwrap)
    (quiet : ∀ markdown, c.replacement? ⟨t, e⟩ = .ok (some markdown) →
      markdown = "" ∧ t.gathered [e] = "") {x : NodeId} (hx : x ≠ e) :
    t'.gathered (t'.children x) = t.gathered (t.children x) := by
  have children := fun p (hp : p ≠ e) => o.children_eq h attached hp
  have forest := o.isForest h
  cases o with
  | kept _ hkeep => exact absurd (policy.symm.trans hkeep) (by decide)
  | unwrapped _ _ =>
    refine Tree.gathered_children_eq h forest children (fun hmem => h.ne_of_mem hmem rfl) ?_ ?_ x hx
    · exact (Tree.gathered_of_element h he).symm
    · exact fun y => Or.inl (Tree.node_unwrap t e y)
  | @replaced markdown hmarkdown =>
    -- what replaces the element is the empty text, and the element had none in it
    obtain ⟨rfl, hempty⟩ := quiet markdown hmarkdown
    have fresh : t.gathered [⟨t.size⟩] = "" := Tree.gathered_of_fresh h (Nat.le_refl t.size)
    refine Tree.gathered_children_eq h forest children ?_ (fresh.trans hempty.symm) ?_ x hx
    · obtain ⟨q, hq⟩ := Option.ne_none_iff_exists'.1 attached
      rw [List.mem_singleton]
      rintro rfl
      exact Nat.lt_irrefl _ (Arena.index_lt_of_parent hq)
    · intro y
      rcases eq_or_ne y ⟨t.size⟩ with rfl | hy
      · refine Or.inr ⟨?_, fresh⟩
        rw [Tree.gathered_singleton, Tree.markup_eq forest, Tree.node_fresh]
        exact Node.gatherText_of_text rfl _
      · left
        rw [Tree.node_replace_fresh, if_neg]
        exact fun hindex => hy (congrArg NodeId.mk hindex)

/-- After the visit of `e`, its children or an empty text stand where `e` stood. -/
theorem Outcome.cases_child (o : Outcome c t e ys t') (h : t.IsForest)
    (attached : t.parent e ≠ none)
    (policy : c.options.unmatched = .unwrap) {p x : NodeId} (hp : p ≠ e)
    (hx : x ∈ t'.children p) :
    t'.label x = .text ∨
      (x ≠ e ∧ t'.label x = t.label x ∧ (x ∈ t.children p ∨ x ∈ t.children e)) := by
  have label {x : NodeId} (hlt : x.index < t.size) : t'.label x = t.label x :=
    Tree.label_of_node_eq (o.node_eq hlt)
  rw [o.children_eq h attached hp, Arena.mem_splice] at hx
  rcases hx with ⟨hx, hne⟩ | ⟨-, hx⟩
  · exact Or.inr ⟨hne, label (h.child_lt hx), Or.inl hx⟩
  · cases o with
    | kept _ hkeep => exact absurd (policy.symm.trans hkeep) (by decide)
    | unwrapped _ _ => exact Or.inr ⟨h.ne_of_mem hx, label (h.child_lt hx), Or.inr hx⟩
    | replaced _ =>
      left
      rw [List.mem_singleton.1 hx, Tree.label, Tree.node_fresh]

/-! ## All visits

`KeepsText` is the invariant. It speaks of each node that is still to be visited and not only of
the root, since whether an element is blank is asked of its own text when its turn comes. -/

/-- What holds after the visits of `done` if they have unwrapped elements and left out empty ones:
each node still to be visited has the text that it had, and what is in it is text, or was in such a
node before. -/
structure KeepsText (N : Tree) (done : List NodeId) (u : Tree) : Prop where
  text_eq : ∀ {x}, x ∉ done → x.index < N.size →
    u.gathered (u.children x) = N.gathered (N.children x)
  child_cases : ∀ {p x}, N.Shown p → p ∉ done → x ∈ u.children p →
    u.label x = .text ∨ (x ∉ done ∧ ∃ q, N.Shown q ∧ x ∈ N.children q)

theorem KeepsText.start (N : Tree) : KeepsText N [] N where
  text_eq _ _ := rfl
  child_cases hp _ hx := Or.inr ⟨List.not_mem_nil, _, hp, hx⟩

theorem KeepsText.step (h : N.IsForest) (split : (N.levelOrder root).reverse = done ++ e :: rest)
    {rep : NodeId → List NodeId} (pr : Progress N done (e :: rest) rep t)
    (keeps : KeepsText N done t) (policy : c.options.unmatched = .unwrap)
    (o : Outcome c t e ys t') (quiet : ∀ markdown, c.replacement? ⟨t, e⟩ = .ok (some markdown) →
      markdown = "" ∧ t.gathered [e] = "") : KeepsText N (done ++ [e]) t' := by
  have attached := pr.attached h split
  have hreached : N.Reaches root e := (Tree.mem_levelOrder_iff_reaches h).1
    (Tree.mem_levelOrder_of_split split List.mem_cons_self)
  have helement : t.isElement e = true := by
    rw [Tree.isElement, Tree.label_of_node_eq (pr.node_eq hreached.below.index_lt)]
    exact hreached.isElement
  have notDone : e ∉ done := Tree.not_mem_done h split
  constructor
  · intro x hx hlt
    rw [List.mem_append, List.mem_singleton, not_or] at hx
    rw [o.gathered_children pr.forest attached helement policy quiet hx.2, keeps.text_eq hx.1 hlt]
  · intro p x hp hpdone hx
    rw [List.mem_append, List.mem_singleton, not_or] at hpdone
    rcases o.cases_child pr.forest attached policy hpdone.2 hx with htext | ⟨hne, hlabel, hx⟩
    · exact Or.inl htext
    · rw [hlabel, List.mem_append, List.mem_singleton, not_or]
      -- a child that was moved up stood below `e`, which had not been visited
      have before : t.label x = .text ∨ (x ∉ done ∧ ∃ q, N.Shown q ∧ x ∈ N.children q) := by
        rcases hx with hx | hx
        · exact keeps.child_cases hp hpdone.1 hx
        · exact keeps.child_cases (Or.inr hreached) notDone hx
      exact before.imp_right fun free => ⟨⟨free.1, hne⟩, free.2⟩

/-- **All visits succeed**, and they keep the text. By induction on the visits. An element is blank
at its visit if it was so in the normalized document, since its text is the same. -/
theorem exists_run_keepsText (h : N.IsForest) (policy : c.options.unmatched = .unwrap)
    (spares : c.Spares N) (hspace : ∀ x, N.Reaches root x → ¬ N.SpaceOnly c.options x)
    (done : List NodeId) : ∀ {rest : List NodeId}, (N.levelOrder root).reverse = done ++ rest →
      ∃ rep u, Run c N done rep u ∧ KeepsText N done u := by
  induction done using List.reverseRecOn with
  | nil => exact fun _ => ⟨_, N, .start, .start N⟩
  | append_singleton done e ih =>
    intro rest split
    rw [List.append_assoc, List.singleton_append] at split
    obtain ⟨rep, t, run, keeps⟩ := ih split
    have pr := run.progress h split
    have hreached : N.Reaches root e := (Tree.mem_levelOrder_iff_reaches h).1
      (Tree.mem_levelOrder_of_split split List.mem_cons_self)
    have hlabel : t.label e = N.label e :=
      Tree.label_of_node_eq (pr.node_eq hreached.below.index_lt)
    have helement : t.isElement e = true := by
      rw [Tree.isElement, hlabel]
      exact hreached.isElement
    have hleaf := Label.isLeaf_of_isElement helement
    -- the element is as blank as it was, since it has the text that it had
    have blank : ¬ t.SpaceOnly c.options e := by
      have text : t.textContent e = N.textContent e := by
        rw [Tree.textContent_eq_gathered pr.forest hleaf, Tree.textContent_eq_gathered h
          (hlabel ▸ hleaf), keeps.text_eq (Tree.not_mem_done h split) hreached.below.index_lt]
      rw [Tree.SpaceOnly, text, Tree.tagName, hlabel]
      exact hspace e hreached
    have replacement := replacement?_of_find?_eq_none pr.forest helement
      (spares t e hreached hlabel) blank
    have quiet : ∀ markdown, c.replacement? ⟨t, e⟩ = .ok (some markdown) →
        markdown = "" ∧ t.gathered [e] = "" := by
      intro markdown hmarkdown
      rcases replacement with hnone | ⟨hsome, hempty⟩
      · rw [hnone] at hmarkdown
        cases hmarkdown
      · rw [hsome] at hmarkdown
        cases hmarkdown
        exact ⟨rfl, hempty⟩
    obtain ⟨markdown, hmarkdown⟩ : ∃ markdown, c.replacement? ⟨t, e⟩ = .ok markdown :=
      replacement.elim (fun hnone => ⟨_, hnone⟩) fun hsome => ⟨_, hsome.1⟩
    obtain ⟨ys, t', hvisit, o⟩ := exists_visit (pr.attached h split) hmarkdown
    exact ⟨_, t', .visit run hvisit o, keeps.step h split pr policy o quiet⟩

/-- A document in which there are texts only is printed as these texts. -/
theorem finish_of_texts (h : u.IsForest) (hroot : u.label root = .document)
    (texts : ∀ x ∈ u.children root, u.label x = .text) :
    finish u = Text.mapChars Text.tidy (u.gathered (u.children root)) := by
  have raw : Node.isRawTextTag (u.tagName root) = false := by
    rw [Tree.tagName, hroot]
    decide
  rw [finish, Tree.innerHtml_of_texts h texts, raw, decodeEntities_writeText,
    ← Tree.gatherTexts_of_texts h texts, Tree.gathered]

/-- **Only the text is left** of a document whose elements have no rules and are not blank. What is
left in the end are texts, since an element would have been visited and a comment is not there. -/
theorem convertTree_of_spares (h : t.WellFormed) (policy : c.options.unmatched = .unwrap)
    (spares : c.Spares (t.normalize c.options))
    (hspace : ∀ x, t.Reaches root x → ¬ (t.normalize c.options).SpaceOnly c.options x) :
    c.convertTree t =
      .ok (Text.mapChars Text.tidy ((t.normalize c.options).textContent root)) := by
  have wf := (Tree.trims_normalize t c.options).wellFormed h
  have reached : ∀ x, (t.normalize c.options).Reaches root x ↔ t.Reaches root x :=
    Tree.reaches_normalize_iff h c.options
  obtain ⟨rep, u, run, keeps⟩ := exists_run_keepsText wf.forest policy spares
    (fun x hx => hspace x ((reached x).1 hx)) _ (List.append_nil _).symm
  have pr := run.progress wf.forest (List.append_nil _).symm
  have node {x : NodeId} (hx : x.index < (t.normalize c.options).size) :
      u.label x = (t.normalize c.options).label x := Tree.label_of_node_eq (pr.node_eq hx)
  have hroot : (t.normalize c.options).label root = .document :=
    (wf.label_eq_document wf.root_lt).2 rfl
  have notDone : root ∉ ((t.normalize c.options).levelOrder root).reverse := by
    rw [List.mem_reverse]
    exact fun hmem => wf.forest.acyclic root (Tree.below_of_mem_levelOrder wf.forest hmem)
  -- an element that is left would have been visited
  have texts : ∀ x ∈ u.children root, u.label x = .text := by
    intro x hx
    rcases keeps.child_cases (Or.inl rfl) notDone hx with htext | ⟨hdone, q, hq, hx⟩
    · exact htext
    · have hbelow := hq.below_of_mem wf hx
      rw [node hbelow.index_lt]
      rcases hlabel : (t.normalize c.options).label x with _ | ⟨tag, attributes⟩ | _ | _
      · exact absurd hlabel (wf.label_ne_document hbelow)
      · have helement : (t.normalize c.options).isElement x = true := by
          rw [Tree.isElement, hlabel]
          rfl
        refine absurd ?_ hdone
        rw [List.mem_reverse, Tree.mem_levelOrder_iff_reaches wf.forest]
        exact (hq.of_child wf hx helement).reaches hbelow wf.forest
      · rfl
      · have hq' : t.Shown q := hq.imp_right (reached q).1
        exact absurd hlabel (Tree.label_normalize_ne_comment h hq' hx)
  rw [convertTree, run.visitAll_eq]
  have text : u.gathered (u.children root) = (t.normalize c.options).textContent root := by
    rw [keeps.text_eq notDone wf.root_lt,
      Tree.textContent_eq_gathered wf.forest (by rw [hroot]; rfl)]
  rw [← text, ← finish_of_texts pr.forest ((node wf.root_lt).trans hroot) texts]
  rfl

/-! ## The bundled rules

Whether a bundled rule is for an element can depend on what is around it in one case only, that
of code in a `pre`. With that case set aside, a document is spared by the bundled rules if its
tags are none of theirs. -/

/-- Which of the bundled rules is for an element depends on the element alone, if it is no code. -/
theorem find?_standard_congr {n m : NodeRef} (h : n.label = m.label) (hcode : n.tagName ≠ "code")
    (options : Options) :
    RuleSet.standard.find? n options = RuleSet.standard.find? m options := by
  have declarative {rule : Rule} (filter : rule.filter.IsDeclarative) :
      rule.accepts n options = rule.accepts m options :=
    Filter.accepts_congr h filter options
  have code : Rule.inlineCode.accepts n options = Rule.inlineCode.accepts m options := by
    have hn : (n.tagName == "code") = false := beq_eq_false_iff_ne.2 hcode
    have hm : (m.tagName == "code") = false := NodeRef.tagName_congr h ▸ hn
    show (n.tagName == "code" && _) = (m.tagName == "code" && _)
    rw [hn, hm, Bool.false_and, Bool.false_and]
  have link : Rule.inlineLink.accepts n options = Rule.inlineLink.accepts m options := by
    simp only [Rule.accepts, Rule.inlineLink, Rule.ofFunction, Filter.accepts,
      NodeRef.tagName_congr h, NodeRef.attribute?_congr h]
  refine List.find?_congr fun entry hentry => ?_
  have hmem : entry ∈ Rule.standard := hentry
  simp only [Rule.standard, List.mem_cons, List.not_mem_nil, or_false] at hmem
  rcases hmem with rfl | rfl | rfl | rfl | rfl | rfl | rfl | rfl | rfl | rfl | rfl | rfl | rfl
  all_goals first | exact declarative trivial | exact code | exact link

/-- The rules for code leave out only what the rule for a preformatted block around it takes in. -/
theorem tagName_ne_code (h : t.WellFormed)
    (unmatched : ∀ x, t.Reaches root x → RuleSet.standard.find? ⟨t, x⟩ {} = none) {x : NodeId}
    (hx : t.Reaches root x) : t.tagName x ≠ "code" := by
  intro hcode
  have hinline := List.find?_eq_none.1 (unmatched x hx) ("inline_code", Rule.inlineCode)
    (by simp [RuleSet.standard_entries, Rule.standard])
  -- a `code` that has no rule is the only child of a `pre`
  have hblock : Rule.isCodeBlock ⟨t, x⟩ = true := by
    simpa [Rule.accepts, Rule.inlineCode, Rule.ofFunction, Filter.accepts, NodeRef.tagName, hcode]
      using hinline
  rw [Rule.isCodeBlock, Bool.and_eq_true, Bool.and_eq_true, Option.any_eq_true] at hblock
  obtain ⟨⟨⟨parent, hparent, hpre⟩, -⟩, -⟩ := hblock
  obtain ⟨p, hp, rfl⟩ := Option.map_eq_some_iff.1 hparent
  have htag : t.tagName p = "pre" := beq_iff_eq.1 hpre
  obtain ⟨q, hq, hqx⟩ := Relation.TransGen.tail'_iff.1 hx
  obtain rfl : q = p := Option.some.inj (hqx.1.symm.trans hp)
  rcases Relation.reflTransGen_iff_eq_or_transGen.1 hq with rfl | hq
  · rw [Tree.tagName, (h.label_eq_document h.root_lt).2 rfl] at htag
    exact absurd htag (by decide)
  -- and that `pre` has a rule, which is asked before
  · have hcodeBlock := List.find?_eq_none.1 (unmatched q hq) ("code_block", Rule.codeBlock)
      (by simp [RuleSet.standard_entries, Rule.standard])
    refine hcodeBlock ((Rule.accepts_forTag (by decide) ⟨t, q⟩ {}).trans ?_)
    rw [NodeRef.tagName, htag]
    decide

theorem spares_standard (h : t.WellFormed)
    (unmatched : ∀ x, t.Reaches root x → RuleSet.standard.find? ⟨t, x⟩ {} = none) :
    standard.Spares (t.normalize {}) := by
  intro u x hx hlabel
  rw [(Tree.trims_normalize t {}).label_eq] at hlabel
  have reached := (Tree.reaches_normalize_iff h {} x).1 hx
  have hcode : NodeRef.tagName ⟨u, x⟩ ≠ "code" := by
    rw [NodeRef.tagName, Tree.tagName, hlabel]
    exact tagName_ne_code h unmatched reached
  exact (find?_standard_congr (n := ⟨u, x⟩) (m := ⟨t, x⟩) hlabel hcode {}).trans
    (unmatched x reached)

open Text in
/-- **Words are run together at seams only.** Where no bundled rule is for an element, and no
element goes because it is blank, the words of the Markdown are those of the text that normalization
has left. They are the words that are read in the document unless, after normalization, two of them
have nothing but the boundaries of blocks between them. -/
theorem words_convertTree_eq_iff (h : t.WellFormed) (hfull : t.NoEmptyText)
    (unmatched : ∀ x, t.Reaches root x → RuleSet.standard.find? ⟨t, x⟩ {} = none)
    (hspace : ∀ x, t.Reaches root x → ¬ (t.normalize {}).SpaceOnly {} x) :
    ∃ m, standard.convertTree t = .ok m ∧
      words (marks m.toList) = words (marks ((t.normalize {}).textContent root).toList) ∧
      (words (marks m.toList) = words (t.reading {} root) ↔
        ¬ HasSeam ((t.normalize {}).reading {} root)) := by
  have trims := Tree.trims_normalize t {}
  have hroot : ((t.normalize {}).label root).isLeaf = false := by
    rw [trims.label_eq, h.isLeaf_eq_false (Or.inl rfl)]
  have text : words (marks (mapChars tidy ((t.normalize {}).textContent root)).toList) =
      words (marks ((t.normalize {}).textContent root).toList) := by
    rw [toList_mapChars, words_tidy]
  refine ⟨mapChars tidy ((t.normalize {}).textContent root),
    convertTree_of_spares h rfl (spares_standard h unmatched) hspace, text, ?_⟩
  rw [text, ← Tree.words_reading_normalize h hfull, ← Tree.eraseBoundaries_reading
    (trims.isForest h.forest) hroot {}, words_eraseBoundaries_eq_iff]

/-- A block within another one, with a comment and an element of the line in it. -/
def nestedBlocks : Tree :=
  Tree.empty.run
    [.createElement "section" [], .append root ⟨1⟩, .createText "one ", .append ⟨1⟩ ⟨2⟩,
     .createElement "div" [], .append ⟨1⟩ ⟨3⟩, .createText " ", .append ⟨3⟩ ⟨4⟩,
     .createComment "-", .append ⟨3⟩ ⟨5⟩, .createElement "span" [], .append ⟨3⟩ ⟨6⟩,
     .createText "\u00a0two", .append ⟨6⟩ ⟨7⟩]

theorem words_convertTree_eq_iff_nestedBlocks :
    nestedBlocks.WellFormed ∧ nestedBlocks.NoEmptyText ∧
      (∀ x, nestedBlocks.Reaches root x → RuleSet.standard.find? ⟨nestedBlocks, x⟩ {} = none) ∧
      (∀ x, nestedBlocks.Reaches root x → ¬ (nestedBlocks.normalize {}).SpaceOnly {} x) ∧
      ∃ m, standard.convertTree nestedBlocks = .ok m ∧
        Text.words (Text.marks m.toList) = Text.words (nestedBlocks.reading {} root) ∧
        Text.words (nestedBlocks.reading {} root) = ["one", "two"].map (Text.marks ·.toList) := by
  have h : nestedBlocks.WellFormed := Tree.WellFormed.run _ Tree.wellFormed_empty
    (Tree.allAllowed_of_areAllowed (by decide +kernel))
  have hfull : nestedBlocks.NoEmptyText :=
    Tree.noEmptyText_of_forall_lt h.forest (by decide +kernel)
  -- what the theorem asks about the document, evaluated in one go
  have facts : (∀ x ∈ nestedBlocks.levelOrder root,
        Rule.isForeignTag (nestedBlocks.tagName x) = true ∧
          ¬ (nestedBlocks.normalize {}).SpaceOnly {} x) ∧
      ¬ Text.HasSeam ((nestedBlocks.normalize {}).reading {} root) ∧
      Text.words (nestedBlocks.reading {} root) = ["one", "two"].map (Text.marks ·.toList) := by
    decide +kernel
  obtain ⟨elements, seam, words⟩ := facts
  have elements := fun x hx => elements x ((Tree.mem_levelOrder_iff_reaches h.forest).2 hx)
  have unmatched := fun x (hx : nestedBlocks.Reaches root x) =>
    RuleSet.standard_find?_of_foreign (n := ⟨nestedBlocks, x⟩) (elements x hx).1 {}
  have hspace := fun x hx => (elements x hx).2
  obtain ⟨m, hm, -, same⟩ := words_convertTree_eq_iff h hfull unmatched hspace
  exact ⟨h, hfull, unmatched, hspace, m, hm, same.2 seam, words⟩

/-- Two blocks with a space between them. -/
def neighbours : Tree :=
  Tree.empty.run
    [.createElement "div" [], .append root ⟨1⟩, .createText "a", .append ⟨1⟩ ⟨2⟩,
     .createText " ", .append root ⟨3⟩, .createElement "div" [], .append root ⟨4⟩,
     .createText "b", .append ⟨4⟩ ⟨5⟩]

/-- The space goes because of the blocks, and then the blocks go. -/
theorem words_convertTree_neighbours_ne :
    neighbours.WellFormed ∧ neighbours.NoEmptyText ∧
      (∀ x, neighbours.Reaches root x → RuleSet.standard.find? ⟨neighbours, x⟩ {} = none) ∧
      (∀ x, neighbours.Reaches root x → Text.isBlank (neighbours.innerHtml x).toList = false) ∧
      standard.convertTree neighbours = .ok "ab" ∧
      Text.words (neighbours.reading {} root) = ["a", "b"].map (Text.marks ·.toList) ∧
      Text.words (Text.marks "ab".toList) ≠ Text.words (neighbours.reading {} root) := by
  have h : neighbours.WellFormed := Tree.WellFormed.run _ Tree.wellFormed_empty
    (Tree.allAllowed_of_areAllowed (by decide +kernel))
  have hfull : neighbours.NoEmptyText := Tree.noEmptyText_of_forall_lt h.forest (by decide +kernel)
  have facts : (∀ x ∈ neighbours.levelOrder root,
        Rule.isForeignTag (neighbours.tagName x) = true ∧
          Text.isBlank (neighbours.innerHtml x).toList = false ∧
          ¬ (neighbours.normalize {}).SpaceOnly {} x) ∧
      Text.mapChars Text.tidy ((neighbours.normalize {}).textContent root) = "ab" ∧
      Text.words (neighbours.reading {} root) = ["a", "b"].map (Text.marks ·.toList) ∧
      Text.words (Text.marks "ab".toList) ≠ Text.words (neighbours.reading {} root) := by
    decide +kernel
  obtain ⟨elements, text, words⟩ := facts
  have elements := fun x hx => elements x ((Tree.mem_levelOrder_iff_reaches h.forest).2 hx)
  have unmatched := fun x (hx : neighbours.Reaches root x) =>
    RuleSet.standard_find?_of_foreign (n := ⟨neighbours, x⟩) (elements x hx).1 {}
  have value := convertTree_of_spares h rfl (spares_standard h unmatched) fun x hx =>
    (elements x hx).2.2
  exact ⟨h, hfull, unmatched, fun x hx => (elements x hx).2.1,
    value.trans (congrArg Except.ok text), words⟩

end Converter

end Tagdown
