import Tagdown.Proofs.Document.Order
import Tagdown.Proofs.Normalize.Idempotence
import Tagdown.Proofs.Normalize.Pieces

/-!
# Normalization loses no content

All elements that are reached through elements stay where they are, in their order, with their tags
and attributes; at each of them normalization does what it does to a document by itself
(`contents_normalize_of_shown`). The text of each has the characters that it had, white space apart,
and what stands between the elements of a preformatted element is not changed at all
(`normalize_keeps_content`).
-/

namespace Tagdown

namespace Rose

variable {options : Options}

/-- An element has the text that is in it. -/
theorem gatherText_of_element {n : Node} (hn : n.label.isElement = true) (row : Row) :
    Node.gatherText (.node n row) = Node.gatherTexts row := by
  rw [Node.gatherText]
  cases hlabel : n.label <;> simp_all [Label.isElement]

/-- A document that is no element has the text that it had. -/
theorem gatherText_normalized_of_not_element {r : Rose Node} (hr : r.kind.isElement = false) :
    Node.gatherText (r.normalized options) = Node.gatherText r := by
  obtain ⟨n, row⟩ := r
  have hn : n.label.isElement = false := hr
  rcases hlabel : n.label with _ | ⟨tag, attributes⟩ | _ | _
  · rw [normalized_of_inner (by rw [hlabel]; rfl), Node.gatherText, Node.gatherText, hlabel]
  · rw [hlabel] at hn
    cases hn
  · rw [normalized, merged, settled, hlabel]
    simp [Label.isLeaf, Node.gatherText, hlabel]
  · rw [normalized, merged, settled, hlabel]
    simp [Label.isLeaf, Node.gatherText, hlabel]

mutual

/-- The text of a document keeps all but white space. -/
theorem solid_gatherText_normalized (options : Options) :
    ∀ r : Rose Node, solid (Node.gatherText (r.normalized options)) = solid (Node.gatherText r)
  | .node n row => by
    cases hn : n.label.isElement with
    | false => rw [gatherText_normalized_of_not_element (r := .node n row) hn]
    | true =>
      rw [normalized_of_inner (Label.isLeaf_of_isElement hn), gatherText_of_element hn,
        gatherText_of_element hn]
      refine Row.filter_gatherTexts_of_pieces
        (Row.pieces_normalized (Or.inl skipsSpace_isSolid) row) fun r hr => ?_
      exact solid_gatherText_normalized_of_mem options row r (List.mem_of_mem_filter hr)

/-- The induction goes through rows as well, tree by tree. -/
theorem solid_gatherText_normalized_of_mem (options : Options) :
    ∀ (row : Row), ∀ r ∈ row,
      solid (Node.gatherText (r.normalized options)) = solid (Node.gatherText r)
  | [], r, hr => by cases hr
  | u :: us, r, hr => by
    rcases List.mem_cons.1 hr with hru | hr
    · rw [hru]
      exact solid_gatherText_normalized options u
    · exact solid_gatherText_normalized_of_mem options us r hr

end

end Rose

namespace Tree

variable {t : Tree} {p e : NodeId} {options : Options}

/-! ## What shows of a node

The views of a node that are compared before and after: its element children, its text, and the
texts between its element children. -/

/-- The node is the root or is reached from it through elements. -/
def Shown (t : Tree) (p : NodeId) : Prop :=
  p = root ∨ t.Reaches root p

/-- What stands before the first of the elements among some nodes, between one and the next, and
after the last: each time the values of all texts there. -/
def gapsBetween (t : Tree) : List NodeId → List String
  | [] => [""]
  | id :: ids =>
    match t.label id with
    | .text => (t.gapsBetween ids).modifyHead (t.value id ++ ·)
    | .element _ _ => "" :: t.gapsBetween ids
    | .comment => t.gapsBetween ids
    | .document => t.gapsBetween ids

/-- What stands directly below a node before, between and after its element children. -/
def gaps (t : Tree) (p : NodeId) : List String :=
  t.gapsBetween (t.children p)

/-- The root and the elements are the nodes that have contents. -/
theorem WellFormed.isLeaf_eq_false (h : t.WellFormed) (hp : t.Shown p) :
    (t.label p).isLeaf = false := by
  rcases hp with rfl | hp
  · rw [(h.label_eq_document h.root_lt).2 rfl]
    rfl
  · exact Label.isLeaf_of_isElement hp.isElement

/-- The elements of a row are the element children, seen as trees. -/
theorem elements_row (t : Tree) (p : NodeId) :
    Row.elements (t.row p) = (t.elementChildren p).map t.contents := by
  have same : (fun r : Rose Node => r.kind.isElement) ∘ t.contents = t.isElement := by
    funext x
    rw [Function.comp_apply, kind_contents, isElement]
  rw [row, Row.elements, List.filter_map, same, elementChildren]

/-- What is read of a node is what its row has in it. -/
theorem textContent_eq_row (h : t.IsForest) (hp : (t.label p).isLeaf = false) :
    t.textContent p = Node.gatherTexts (t.row p) := by
  rw [textContent_eq_contents hp, contents_of_inner h hp]
  rfl

/-- The walk over the children cuts their text where elements stand, which is what the stretches
of a row are. -/
theorem gapsBetween_eq (t : Tree) (ids : List NodeId) :
    t.gapsBetween ids =
      (Row.stretches (Row.pieces (fun _ => true) (ids.map t.contents))).map String.ofList := by
  induction ids with
  | nil => rfl
  | cons id ids ih =>
    rw [gapsBetween, List.map_cons, Row.pieces_cons, Row.piece, kind_contents]
    rcases hlabel : t.label id with _ | ⟨tag, attributes⟩ | _ | _
    · exact ih
    · exact congrArg ("" :: ·) ih
    · -- the characters of the text go to the front of the first gap
      simp only [value_contents (show (t.label id).isLeaf = true by rw [hlabel]; rfl),
        List.filter_true, Row.stretches_append, ih]
      cases Row.stretches (Row.pieces (fun _ => true) (ids.map t.contents)) with
      | nil => rfl
      | cons gap gaps => simp [String.ofList_append]
    · exact ih

/-- The same for all children of a node. -/
theorem gaps_eq (t : Tree) (p : NodeId) :
    t.gaps p = (Row.stretches (Row.pieces (fun _ => true) (t.row p))).map String.ofList :=
  gapsBetween_eq t (t.children p)

/-! ## Node by node

Normalization begins at the root, but what it makes of a node below depends on that node alone.
So what was said of whole documents can be said of every element that is reached. -/

/-- A node that is normalized by itself keeps its label, and its row is normalized below it. -/
theorem contents_normalized (h : t.IsForest) (hp : (t.label p).isLeaf = false)
    (options : Options) :
    (t.contents p).normalized options =
      .node { label := t.label p } (Row.normalized options (t.label p) (t.row p)) := by
  rw [contents_of_inner h hp]
  exact Rose.normalized_of_inner (n := { label := t.label p }) hp options (t.row p)

/-- What is known of the contents of a node is known of its row. -/
theorem row_of_contents {u : Tree} (ht : t.IsForest) (trims : Trims t u)
    (hp : (t.label p).isLeaf = false) (h : u.contents p = (t.contents p).normalized options) :
    u.row p = Row.normalized options (t.label p) (t.row p) := by
  have hu : (u.label p).isLeaf = false := by rw [trims.label_eq, hp]
  rw [contents_of_inner (trims.isForest ht) hu, contents_normalized ht hp] at h
  exact (Rose.node.inj h).2

/-- A pass that only trims brings no element and changes no order. -/
theorem elementChildren_sublist {u : Tree} (ht : t.IsForest) (trims : Trims t u) (p : NodeId) :
    (u.elementChildren p).Sublist (t.elementChildren p) := by
  have same : u.isElement = t.isElement := by
    funext x
    rw [isElement, isElement, trims.label_eq]
  rw [elementChildren, elementChildren, same]
  exact (trims.children_sublist ht p).filter _

/-- The element children of a normalized node are those that it had, and they are normalized. -/
theorem elementChildren_of_contents {u : Tree} (ht : t.IsForest) (trims : Trims t u)
    (hp : (t.label p).isLeaf = false) (h : u.contents p = (t.contents p).normalized options) :
    u.elementChildren p = t.elementChildren p ∧
      ∀ c ∈ t.elementChildren p, u.contents c = (t.contents c).normalized options := by
  have elements := elements_row u p
  rw [row_of_contents ht trims hp h, Row.elements_normalized, elements_row, List.map_map]
    at elements
  have hlength := congrArg List.length elements
  rw [List.length_map, List.length_map] at hlength
  have same := (elementChildren_sublist ht trims p).eq_of_length hlength.symm
  rw [same] at elements
  exact ⟨same, fun c hc => (List.map_inj_left.1 elements c hc).symm⟩

/-- **Normalization works on each node by itself**: what it makes of the contents of a node depends
on these contents only. The induction follows the way down from the root: the contents of the
children can be read off those of the parent. -/
theorem contents_normalize_of_shown (h : t.WellFormed) (options : Options) (hp : t.Shown p) :
    (t.normalize options).contents p = (t.contents p).normalized options := by
  have trims := trims_normalize t options
  have hforest := h.forest
  rcases hp with rfl | hp
  · exact contents_normalize h options
  induction hp with
  | single hx =>
    refine (elementChildren_of_contents hforest trims (h.isLeaf_eq_false (Or.inl rfl))
      (contents_normalize h options)).2 _ ?_
    exact (mem_elementChildren hforest).2 hx
  | tail hq hx ih =>
    refine (elementChildren_of_contents hforest trims (h.isLeaf_eq_false (Or.inr hq)) ih).2 _ ?_
    exact (mem_elementChildren hforest).2 hx

/-- The row of a node that shows is normalized as if it stood alone. -/
theorem row_normalize_of_shown (h : t.WellFormed) (options : Options) (hp : t.Shown p) :
    (t.normalize options).row p = Row.normalized options (t.label p) (t.row p) :=
  row_of_contents h.forest (trims_normalize t options) (h.isLeaf_eq_false hp)
    (contents_normalize_of_shown h options hp)

/-- No element child is lost, and none changes its place among the others. -/
theorem elementChildren_normalize (h : t.WellFormed) (options : Options) (hp : t.Shown p) :
    (t.normalize options).elementChildren p = t.elementChildren p :=
  (elementChildren_of_contents h.forest (trims_normalize t options) (h.isLeaf_eq_false hp)
    (contents_normalize_of_shown h options hp)).1

/-- No element is taken out. -/
theorem reaches_normalize_iff (h : t.WellFormed) (options : Options) (x : NodeId) :
    (t.normalize options).Reaches root x ↔ t.Reaches root x := by
  have hforest := (trims_normalize t options).isForest h.forest
  have label := (trims_normalize t options).label_eq
  constructor
  · refine Relation.TransGen.mono (fun p x hx => ?_) root x
    refine ⟨(trims_normalize t options).parent_eq h.forest hx.1, ?_⟩
    rw [isElement, ← label]
    exact hx.2
  · intro hx
    induction hx with
    | single hx =>
      refine reaches_of_mem hforest ?_
      rw [elementChildren_normalize h options (Or.inl rfl)]
      exact (mem_elementChildren h.forest).2 hx
    | tail hq hx ih =>
      refine ih.step hforest ?_
      rw [elementChildren_normalize h options (Or.inr hq)]
      exact (mem_elementChildren h.forest).2 hx

/-! ## The text of a node

For the text white space is set aside, and in a preformatted element nothing is. -/

/-- The text is read off the normalized row. -/
theorem textContent_normalize (h : t.WellFormed) (options : Options) (hp : t.Shown p) :
    (t.normalize options).textContent p = Node.gatherTexts ((t.normalize options).row p) := by
  have trims := trims_normalize t options
  refine textContent_eq_row (trims.isForest h.forest) ?_
  rw [trims.label_eq, h.isLeaf_eq_false hp]

/-- White space aside, normalization leaves the text of every node that shows. -/
theorem solid_textContent_normalize (h : t.WellFormed) (options : Options) (hp : t.Shown p) :
    solid ((t.normalize options).textContent p) = solid (t.textContent p) := by
  rw [textContent_normalize h options hp, row_normalize_of_shown h options hp,
    textContent_eq_row h.forest (h.isLeaf_eq_false hp)]
  exact Row.filter_gatherTexts_of_pieces (Row.pieces_normalized (Or.inl skipsSpace_isSolid) _)
    fun r _ => Rose.solid_gatherText_normalized options r

/-- In a preformatted element not even white space changes. -/
theorem gaps_normalize (h : t.WellFormed) (options : Options) (hp : t.Shown p)
    (hkept : t.isPreformattedElement options p = true) :
    (t.normalize options).gaps p = t.gaps p := by
  rw [gaps_eq, gaps_eq, row_normalize_of_shown h options hp, Row.pieces_normalized (Or.inr hkept),
    Row.stretches_map]

/-- **Normalization loses no content.** The elements that are reached from the root stay, with their
tags and attributes, each below the same parent and in the same order. In the text of each of them,
and of the document, only white space may change, and nothing changes of what stands directly below
a preformatted element between the elements in it. -/
theorem normalize_keeps_content (h : t.WellFormed) (options : Options) :
    (∀ x, (t.normalize options).label x = t.label x) ∧
      (∀ x, (t.normalize options).Reaches root x ↔ t.Reaches root x) ∧
      (t.LeavesBare root → ∀ x, t.isElement x = true →
        ((t.normalize options).Below root x ↔ t.Below root x)) ∧
      ∀ p, t.Shown p →
        (t.normalize options).elementChildren p = t.elementChildren p ∧
        solid ((t.normalize options).textContent p) = solid (t.textContent p) ∧
        (t.isPreformattedElement options p = true →
          (t.normalize options).gaps p = t.gaps p) := by
  have trims := trims_normalize t options
  refine ⟨trims.label_eq, reaches_normalize_iff h options, fun bare x helement => ?_,
    fun p hp => ?_⟩
  · refine ⟨trims.below h.forest, fun hx => ?_⟩
    have reached := (h.reaches_root_iff bare).2 ⟨hx, helement⟩
    exact ((reaches_normalize_iff h options x).2 reached).below
  · exact ⟨elementChildren_normalize h options hp, solid_textContent_normalize h options hp,
      gaps_normalize h options hp⟩

/-- A preformatted element in a paragraph, with a no-break space before it, a comment between two of
its texts, and an element that does not keep its own white space. -/
def clippings : Tree :=
  Tree.empty.run
    [.createElement "p" [], .append root ⟨1⟩, .createText " x\u00a0 ", .append ⟨1⟩ ⟨2⟩,
     .createElement "pre" [], .append ⟨1⟩ ⟨3⟩, .createText "\n a", .append ⟨3⟩ ⟨4⟩,
     .createComment "-", .append ⟨3⟩ ⟨5⟩, .createText "  b ", .append ⟨3⟩ ⟨6⟩,
     .createElement "i" [], .append ⟨3⟩ ⟨7⟩, .createText "  c", .append ⟨7⟩ ⟨8⟩,
     .createText "  ", .append ⟨3⟩ ⟨9⟩]

theorem normalize_keeps_content_clippings :
    clippings.WellFormed ∧ clippings.LeavesBare root ∧ clippings.Shown ⟨3⟩ ∧
      clippings.isPreformattedElement {} ⟨3⟩ = true ∧
      (clippings.normalize {}).innerHtml root =
        "<p>x&nbsp; <pre>\n a  b <i> c</i>  </pre></p>" ∧
      (clippings.normalize {}).Below root ⟨7⟩ ∧
      (clippings.normalize {}).elementChildren ⟨3⟩ = [⟨7⟩] ∧
      solid ((clippings.normalize {}).textContent ⟨3⟩) = ['a', 'b', 'c'] ∧
      (clippings.normalize {}).gaps ⟨3⟩ = ["\n a  b ", "  "] := by
  have h : clippings.WellFormed :=
    WellFormed.run _ wellFormed_empty (allAllowed_of_areAllowed (by decide +kernel))
  have bare : clippings.LeavesBare root := leavesBare_of_forall_lt _ (by decide +kernel)
  have links : clippings.parent ⟨1⟩ = some root ∧ clippings.parent ⟨3⟩ = some ⟨1⟩ ∧
      clippings.parent ⟨7⟩ = some ⟨3⟩ ∧ clippings.isElement ⟨1⟩ = true ∧
      clippings.isElement ⟨7⟩ = true ∧ clippings.isPreformattedElement {} ⟨3⟩ = true := by
    decide +kernel
  obtain ⟨hp, hpre, hi, hpelement, hielement, hkept⟩ := links
  have reached : clippings.Reaches root ⟨3⟩ :=
    .tail (.single ⟨hp, hpelement⟩) ⟨hpre, (Bool.and_eq_true_iff.1 hkept).1⟩
  obtain ⟨-, -, below, content⟩ := normalize_keeps_content h {}
  obtain ⟨elements, text, gaps⟩ := content ⟨3⟩ (Or.inr reached)
  refine ⟨h, bare, Or.inr reached, hkept, by decide +kernel, ?_, ?_, ?_, ?_⟩
  · exact (below bare ⟨7⟩ hielement).2 (reached.below.trans (Arena.below_of_parent hi))
  · exact elements.trans (by decide +kernel)
  · exact text.trans (by decide +kernel)
  · exact (gaps hkept).trans (by decide +kernel)

/-- An element inside a text that is white space and stands alone. -/
def sheltered : Tree :=
  Tree.empty.run
    [.createText " ", .append root ⟨1⟩, .createElement "b" [], .append ⟨1⟩ ⟨2⟩]

/-- What stands inside a text goes with it, and so not every element below the root stays there. -/
theorem not_below_normalize_sheltered :
    sheltered.WellFormed ∧ sheltered.isElement ⟨2⟩ = true ∧ sheltered.Below root ⟨2⟩ ∧
      ¬ (sheltered.normalize {}).Below root ⟨2⟩ := by
  have h : sheltered.WellFormed :=
    WellFormed.run _ wellFormed_empty (allAllowed_of_areAllowed (by decide +kernel))
  have links : sheltered.parent ⟨1⟩ = some root ∧ sheltered.parent ⟨2⟩ = some ⟨1⟩ ∧
      sheltered.isElement ⟨2⟩ = true ∧ (sheltered.normalize {}).parent ⟨2⟩ = some ⟨1⟩ ∧
      (sheltered.normalize {}).parent ⟨1⟩ = none := by
    decide +kernel
  obtain ⟨htext, hb, helement, hstill, hfreed⟩ := links
  refine ⟨h, helement, (Arena.below_of_parent htext).trans (Arena.below_of_parent hb), ?_⟩
  intro below
  obtain ⟨q, hq, hroot⟩ := below.cases_parent
  obtain rfl : ⟨1⟩ = q := Option.some.inj (hstill.symm.trans hq)
  rcases hroot with hroot | below
  · exact absurd hroot (by decide)
  · exact Arena.not_below_of_orphan hfreed below

end Tree

end Tagdown
