import Tagdown.Proofs.Document.Contents
import Tagdown.Proofs.Document.History

/-!
# The text between the tags

The text of a node and its HTML are two walks through the same contents. What is left of the HTML
without its tags is the text, once its references are read (`decode_stripTags_innerHtml`). Nothing
in a text or in the value of an attribute begins or ends a tag, since `<` and `>` are always written
as references there.

Where a text or a name is printed as it is, that may fail, and so elements with raw text, comments,
and names with a `>` in them are excluded (`PlainBelow`). A document below the node is excluded too:
it prints what is in it and adds nothing to the text.
-/

namespace Tagdown

/-! ## Deleting tags -/

namespace Text

/-- Delete tags. After a `<` that is not closed yet, `pending` holds what followed it so far, last
character first. -/
def stripTagsFrom : Option (List Char) → List Char → List Char
  | none, [] => []
  | some pending, [] => '<' :: pending.reverse
  | none, c :: rest =>
    if c = '<' then stripTagsFrom (some []) rest else c :: stripTagsFrom none rest
  | some pending, c :: rest =>
    if c = '>' then stripTagsFrom none rest else stripTagsFrom (some (c :: pending)) rest

/-- A text without the segments that go from a `<` to the next `>`. A `<` that no `>` follows
stays. -/
def stripTags (s : List Char) : List Char :=
  stripTagsFrom none s

@[simp] theorem stripTags_nil : stripTags [] = [] := rfl

variable {s : List Char}

/-- What is before the first tag stays. -/
theorem stripTags_append (hs : '<' ∉ s) (rest : List Char) :
    stripTags (s ++ rest) = s ++ stripTags rest := by
  induction s with
  | nil => rfl
  | cons c s ih =>
    rw [List.mem_cons, not_or] at hs
    rw [List.cons_append, stripTags, stripTagsFrom, if_neg (Ne.symm hs.1)]
    exact congrArg (c :: ·) (ih hs.2)

/-- A tag ends with the first `>` in it. -/
theorem stripTagsFrom_append_close (hs : '>' ∉ s) (rest : List Char) :
    ∀ pending, stripTagsFrom (some pending) (s ++ '>' :: rest) = stripTags rest := by
  induction s with
  | nil => exact fun _ => rfl
  | cons c s ih =>
    intro pending
    rw [List.mem_cons, not_or] at hs
    rw [List.cons_append, stripTagsFrom, if_neg (Ne.symm hs.1), ih hs.2]

/-- A tag without a `>` in it goes as a whole. -/
theorem stripTags_tag (hs : '>' ∉ s) (rest : List Char) :
    stripTags ('<' :: (s ++ '>' :: rest)) = stripTags rest :=
  stripTagsFrom_append_close hs rest []

example : stripTags "a > b<c <d>e<f".toList = "a > be<f".toList := by decide

end Text

/-- Wherever `html` stands, what is left of it without its tags is `text` with references. -/
def ReadsAs (html text : String) : Prop :=
  ∀ rest, Text.stripTags (html.toList ++ rest) =
    Entity.encodeText text.toList ++ Text.stripTags rest

namespace ReadsAs

/-- Nothing reads as nothing, -/
theorem empty : ReadsAs "" "" :=
  fun _ => rfl

/-- and what is read in two parts is read as the two texts together. -/
theorem append {html html' text text' : String} (h : ReadsAs html text)
    (h' : ReadsAs html' text') : ReadsAs (html ++ html') (text ++ text') := by
  intro rest
  rw [String.toList_append, List.append_assoc, h, h', String.toList_append,
    Entity.encodeText_append, List.append_assoc]

/-- Without its tags and its references it is the text. -/
theorem decodeEntities_eq {html text : String} (h : ReadsAs html text) :
    decodeEntities (Text.mapChars Text.stripTags html) = text := by
  have whole := h []
  rw [List.append_nil, Text.stripTags_nil, List.append_nil] at whole
  refine String.toList_inj.1 ?_
  rw [decodeEntities, Text.toList_mapChars, Text.toList_mapChars, whole, Entity.decode_encodeText]

/-- What goes from a `<` to the next `>` is read as nothing. -/
theorem tag {html : String} {inside : List Char} (hhtml : html.toList = '<' :: (inside ++ ['>']))
    (hinside : '>' ∉ inside) : ReadsAs html "" := by
  intro rest
  rw [hhtml, List.cons_append, List.append_assoc, List.singleton_append, Text.stripTags_tag hinside]
  rfl

end ReadsAs

/-! ## Printed nodes -/

namespace Node

/-- A text has no tag in what is printed of it, and its references are read back. -/
theorem readsAs_writeText (value : String) : ReadsAs (writeText false value) value := by
  intro rest
  rw [writeText, if_neg Bool.false_ne_true, Text.toList_mapChars,
    Text.stripTags_append (Entity.lt_not_mem_encodeText _)]

/-- In an attribute it could only stand in the name. -/
theorem gt_not_mem_writeAttribute {a : Attribute} (hname : '>' ∉ a.name.toList) :
    '>' ∉ (writeAttribute a).toList := by
  have hvalue := Entity.gt_not_mem_encodeAttribute a.value.toList
  simp [writeAttribute, hname, hvalue]

/-- The values of the attributes do not end the tag that they stand in. -/
theorem readsAs_openTag {tag : String} {attributes : List Attribute} (htag : '>' ∉ tag.toList)
    (hnames : ∀ a ∈ attributes, '>' ∉ a.name.toList) : ReadsAs (openTag tag attributes) "" := by
  have hwritten : (openTag tag attributes).toList =
      '<' :: (tag.toList ++ attributes.flatMap (fun a => (writeAttribute a).toList) ++ ['>']) := by
    simp [openTag, List.flatMap_map]
  refine ReadsAs.tag hwritten ?_
  rw [List.mem_append, List.mem_flatMap]
  rintro (hmem | ⟨a, ha, hmem⟩)
  · exact htag hmem
  · exact gt_not_mem_writeAttribute (hnames a ha) hmem

/-- A closing tag adds nothing to what is read. -/
theorem readsAs_closeTag {tag : String} (htag : '>' ∉ tag.toList) : ReadsAs (closeTag tag) "" := by
  have hwritten : (closeTag tag).toList = '<' :: ('/' :: tag.toList ++ ['>']) := by simp [closeTag]
  exact ReadsAs.tag hwritten (by simpa using htag)

/-- An element is read as its children are, and without children as nothing, void or not. -/
theorem readsAs_write_element {n : Node} {tag : String} {attributes : List Attribute}
    (hn : n.label = .element tag attributes) (htag : '>' ∉ tag.toList)
    (hnames : ∀ a ∈ attributes, '>' ∉ a.name.toList) {children : List (Rose Node)}
    (h : ReadsAs (writeAll (isRawTextTag tag) children) (gatherTexts children)) :
    ReadsAs (write false (.node n children)) (gatherTexts children) := by
  have opened := readsAs_openTag htag hnames
  rw [write, hn]
  dsimp only
  split
  · rename_i hvoid
    rw [Bool.and_eq_true, List.isEmpty_iff] at hvoid
    rw [hvoid.1]
    exact opened
  · have whole := (opened.append h).append (readsAs_closeTag htag)
    rwa [String.empty_append, String.append_empty] at whole

/-- A row is read tree by tree. -/
theorem readsAs_writeAll {row : List (Rose Node)}
    (h : ∀ r ∈ row, ReadsAs (write false r) (gatherText r)) :
    ReadsAs (writeAll false row) (gatherTexts row) := by
  induction row with
  | nil => exact ReadsAs.empty
  | cons r row ih =>
    rw [writeAll, gatherTexts]
    exact (h r List.mem_cons_self).append (ih fun x hx => h x (List.mem_cons_of_mem r hx))

end Node

namespace Tree

variable {t : Tree} {id : NodeId}

/-- Below the node, what is printed apart from tags are texts with references: there is no comment,
no document and no element with raw text, and no name with a `>` in it. -/
structure PlainBelow (t : Tree) (id : NodeId) : Prop where
  noComments : t.NoComments id
  noDocument : ∀ x, t.Below id x → t.label x ≠ .document
  noRawText : ∀ x, t.Below id x → Node.isRawTextTag (t.tagName x) = false
  tagName : ∀ x, t.Below id x → '>' ∉ (t.tagName x).toList
  attributes : ∀ x, t.Below id x → ∀ a ∈ (t.label x).attributes, '>' ∉ a.name.toList

/-- What is asked of all nodes below one is asked of those below another one that is below it. -/
theorem PlainBelow.of_below {x : NodeId} (h : t.PlainBelow id) (hx : t.Below id x) :
    t.PlainBelow x where
  noComments y hy := h.noComments y (hx.trans hy)
  noDocument y hy := h.noDocument y (hx.trans hy)
  noRawText y hy := h.noRawText y (hx.trans hy)
  tagName y hy := h.tagName y (hx.trans hy)
  attributes y hy := h.attributes y (hx.trans hy)

/-- What is inside a node is read as what is inside its children, one after the other. -/
theorem readsAs_row {ids : List NodeId}
    (h : ∀ c ∈ ids, ReadsAs (Node.write false (t.markup c)) (Node.gatherText (t.markup c))) :
    ReadsAs (Node.writeAll false (ids.map t.markup)) (Node.gatherTexts (ids.map t.markup)) := by
  refine Node.readsAs_writeAll fun r hr => ?_
  obtain ⟨c, hc, rfl⟩ := List.mem_map.1 hr
  exact h c hc

/-- The same walk prints a node and gathers its text: by induction on what is below it. -/
theorem readsAs_write_of_below (ht : t.IsForest) (c : NodeId) :
    ∀ {p : NodeId}, t.PlainBelow p → t.Below p c →
      ReadsAs (Node.write false (t.markup c)) (Node.gatherText (t.markup c)) := by
  induction c using ht.induction_below with
  | step c ih =>
    intro p plain hc
    have inner := readsAs_row fun d hd => ih d hd (plain.of_below hc) (ht.below_of_mem hd)
    have hnode : (t.node c).label = t.label c := rfl
    rw [markup_eq ht]
    rcases hlabel : t.label c with _ | ⟨tag, attributes⟩ | _ | _
    · exact absurd hlabel (plain.noDocument c hc)
    · have htag : t.tagName c = tag := by rw [tagName, hlabel]; rfl
      have hattributes : (t.label c).attributes = attributes := by rw [hlabel]; rfl
      rw [← plain.noRawText c hc, htag] at inner
      rw [Node.gatherText, hnode.trans hlabel]
      exact Node.readsAs_write_element (hnode.trans hlabel) (htag ▸ plain.tagName c hc)
        (hattributes ▸ plain.attributes c hc) inner
    · rw [Node.write_of_text false (hnode.trans hlabel),
        Node.gatherText_of_text (hnode.trans hlabel)]
      exact Node.readsAs_writeText _
    · exact absurd hlabel (plain.noComments c hc)

/-- **The text between the tags**: what is inside a node, as HTML, is the text of the node once the
tags are deleted and the references are read. The row of the node is read child by child, each of
which begins and ends outside of any tag. -/
theorem decode_stripTags_innerHtml (ht : t.IsForest) (hid : (t.label id).isLeaf = false)
    (hraw : Node.isRawTextTag (t.tagName id) = false) (plain : t.PlainBelow id) :
    decodeEntities (Text.mapChars Text.stripTags (t.innerHtml id)) = t.textContent id := by
  have inner := readsAs_row fun c hc => readsAs_write_of_below ht c plain (ht.below_of_mem hc)
  rw [innerHtml, textContent_of_inner hid, hraw, markup_eq ht]
  exact inner.decodeEntities_eq

/-- A division with a reference that two texts form together, with tags and references as texts,
with ends of tags in the values of attributes, and with a void element that has a child. -/
def forged : Tree :=
  Tree.empty.run
    [.createElement "div" [⟨"id", ">"⟩], .createText "1 < 2 &l", .createText "t; <b>",
      .createElement "img" [⟨"alt", "a > b"⟩, ⟨"title", "\"></img>&gt;<"⟩], .createElement "br" [],
      .createText "x\u00a0>", .createElement "span" [], .createText "&lt;</span",
      .append root ⟨1⟩, .append ⟨1⟩ ⟨2⟩, .append ⟨1⟩ ⟨3⟩, .append ⟨1⟩ ⟨4⟩, .append ⟨1⟩ ⟨5⟩,
      .append ⟨5⟩ ⟨6⟩, .append ⟨1⟩ ⟨7⟩, .append ⟨7⟩ ⟨8⟩]

theorem wellFormed_forged : forged.WellFormed :=
  WellFormed.run _ wellFormed_empty (allAllowed_of_areAllowed (by decide +kernel))

theorem plainBelow_forged : forged.PlainBelow ⟨1⟩ where
  noComments x hx :=
    (by decide +kernel : ∀ i < forged.size, forged.label ⟨i⟩ ≠ .comment) x.index hx.index_lt
  noDocument _ hx := by
    have hparent : forged.parent ⟨1⟩ = some root := by decide +kernel
    exact wellFormed_forged.label_ne_document ((Arena.below_of_parent hparent).trans hx)
  noRawText x hx :=
    (by decide +kernel : ∀ i < forged.size, Node.isRawTextTag (forged.tagName ⟨i⟩) = false)
      x.index hx.index_lt
  tagName x hx :=
    (by decide +kernel : ∀ i < forged.size, '>' ∉ (forged.tagName ⟨i⟩).toList) x.index hx.index_lt
  attributes x hx :=
    (by decide +kernel : ∀ i < forged.size, ∀ a ∈ (forged.label ⟨i⟩).attributes,
      '>' ∉ a.name.toList) x.index hx.index_lt

theorem decode_stripTags_innerHtml_forged :
    forged.IsForest ∧ (forged.label ⟨1⟩).isLeaf = false ∧
      Node.isRawTextTag (forged.tagName ⟨1⟩) = false ∧ forged.PlainBelow ⟨1⟩ ∧
      forged.innerHtml ⟨1⟩ = "1 &lt; 2 &amp;lt; &lt;b&gt;" ++
        "<img alt=\"a &gt; b\" title=\"&quot;&gt;&lt;/img&gt;&amp;gt;&lt;\"><br>x&nbsp;&gt;</br>" ++
        "<span>&amp;lt;&lt;/span</span>" ∧
      decodeEntities (Text.mapChars Text.stripTags (forged.innerHtml ⟨1⟩)) =
        "1 < 2 &lt; <b>x\u00a0>&lt;</span" := by
  have inner : (forged.label ⟨1⟩).isLeaf = false := by decide +kernel
  have escaped : Node.isRawTextTag (forged.tagName ⟨1⟩) = false := by decide +kernel
  refine ⟨wellFormed_forged.forest, inner, escaped, plainBelow_forged, by decide +kernel, ?_⟩
  rw [decode_stripTags_innerHtml wellFormed_forged.forest inner escaped plainBelow_forged]
  decide +kernel

end Tree

end Tagdown
