import Tagdown.Proofs.Rule.Declarative
import Tagdown.Proofs.Rule.Tags
import Tagdown.Rule.RuleSet

/-!
# What the bundled rules see

A bundled rule can see the whole document around its element, but it looks at little of it: the
element itself with what is inside it, the kind of its parent, whether a sibling stands before and
after it, and its place among the elements there. Two elements that agree in this look alike
(`NodeRef.LooksLike`), and a rule that makes the same of elements that look alike goes by looks
(`Rule.GoesByLooks`). The bundled rules are such rules (`Rule.goesByLooks_of_mem_standard`), and so
are all that are given as data.

Most of the bundled rules are for tags. None is for a tag that is foreign to all of them
(`RuleSet.standard_find?_of_foreign`), and it is known which one is for code, a code block, a
quotation, an item and a list (`RuleSet.standard_find?_of_code` and those after it).
-/

namespace Tagdown

/-- Two elements, each in its own document, agree in what rules look at. -/
structure NodeRef.LooksLike (n m : NodeRef) : Prop where
  label_eq : n.label = m.label
  innerHtml_eq : n.innerHtml = m.innerHtml
  textContent_eq : n.textContent = m.textContent
  parentLabel_eq : n.parent?.map NodeRef.label = m.parent?.map NodeRef.label
  first_eq : n.previousSibling?.isNone = m.previousSibling?.isNone
  last_eq : n.nextSibling?.isNone = m.nextSibling?.isNone
  elementIndex_eq : n.elementIndex = m.elementIndex

namespace Rule

variable {n m : NodeRef} (h : n.LooksLike m)

/-- The rule does not tell elements apart that look alike. -/
structure GoesByLooks (rule : Rule) : Prop where
  accepts_eq : ∀ {n m : NodeRef}, n.LooksLike m → ∀ options,
    rule.accepts n options = rule.accepts m options
  render_eq : ∀ {n m : NodeRef}, n.LooksLike m → ∀ content options,
    rule.render content n options = rule.render content m options

/-- A declared rule reads the name and the attributes of an element, and look-alikes share
both. -/
theorem goesByLooks_of_isDeclarative {rule : Rule} (declarative : rule.IsDeclarative) :
    rule.GoesByLooks where
  accepts_eq h options := Filter.accepts_congr h.label_eq declarative.1 options
  render_eq h content options := Rule.render_congr h.label_eq declarative content options

/-- A rule with a function goes by looks if its filter and its function do. -/
theorem goesByLooks_ofFunction {filter : Filter} {f : String → NodeRef → Options → String}
    (accepts : ∀ {n m : NodeRef}, n.LooksLike m → ∀ options,
      filter.accepts n options = filter.accepts m options)
    (same : ∀ {n m : NodeRef}, n.LooksLike m → ∀ content options,
      f content n options = f content m options) :
    (ofFunction filter f).GoesByLooks where
  accepts_eq h options := accepts h options
  render_eq h content options := congrArg Except.ok (same h content options)

/-- The filter reads a tag name only, so all that is left to ask is the replacement. -/
theorem goesByLooks_forTag (name : String) {f : String → NodeRef → Options → String}
    (same : ∀ {n m : NodeRef}, n.LooksLike m → ∀ content options,
      f content n options = f content m options) : (forTag name f).GoesByLooks :=
  goesByLooks_ofFunction (fun h options =>
    Filter.accepts_congr h.label_eq (show (Filter.tag name).IsDeclarative from trivial) options)
    same

theorem goesByLooks_forTags (names : List String) {f : String → NodeRef → Options → String}
    (same : ∀ {n m : NodeRef}, n.LooksLike m → ∀ content options,
      f content n options = f content m options) : (forTags names f).GoesByLooks :=
  goesByLooks_ofFunction (fun h options =>
    Filter.accepts_congr h.label_eq (show (Filter.tags names).IsDeclarative from trivial) options)
    same

section Looks

include h

theorem tagName_eq_of_looksLike : n.tagName = m.tagName :=
  NodeRef.tagName_congr h.label_eq

theorem attribute?_eq_of_looksLike (name : String) : n.attribute? name = m.attribute? name :=
  NodeRef.attribute?_congr h.label_eq name

/-- The title is an attribute, and look-alikes share all of these. -/
theorem titlePart_eq_of_looksLike : titlePart n = titlePart m := by
  rw [titlePart, titlePart, attribute?_eq_of_looksLike h]

/-- Of its parent a rule asks the tag. -/
theorem parent?_any_eq_of_looksLike (tag : String) :
    (n.parent?.any fun parent => parent.tagName == tag) =
      m.parent?.any fun parent => parent.tagName == tag := by
  have hany := congrArg (Option.any fun label : Label => label.name == tag) h.parentLabel_eq
  rw [Option.any_map, Option.any_map] at hany
  exact hany

/-- Siblings and the name of the parent are part of what two look-alikes share. -/
theorem isCodeBlock_eq_of_looksLike : isCodeBlock n = isCodeBlock m := by
  rw [isCodeBlock, isCodeBlock, parent?_any_eq_of_looksLike h, h.first_eq, h.last_eq]

/-- The number of an item is counted from the elements before it, and these are as many for
both. -/
theorem itemMarker_eq_of_looksLike : itemMarker n = itemMarker m := by
  have hparent := h.parentLabel_eq
  rw [itemMarker, itemMarker, h.elementIndex_eq]
  cases hn : n.parent? with
  | none =>
    rw [hn] at hparent
    rw [Option.map_eq_none_iff.1 hparent.symm]
  | some p =>
    rw [hn] at hparent
    obtain ⟨q, hq, hlabel⟩ := Option.map_eq_some_iff.1 hparent.symm
    rw [hq]
    simp only [NodeRef.tagName_congr hlabel]

end Looks

theorem goesByLooks_heading : heading.GoesByLooks := by
  refine goesByLooks_forTags _ fun h content _ => ?_
  rw [tagName_eq_of_looksLike h]

theorem goesByLooks_codeBlock : codeBlock.GoesByLooks := by
  refine goesByLooks_forTag _ fun h _ _ => ?_
  rw [h.textContent_eq]

theorem goesByLooks_listItem : listItem.GoesByLooks := by
  refine goesByLooks_forTag _ fun h _ _ => ?_
  rw [itemMarker_eq_of_looksLike h]

theorem goesByLooks_list : list.GoesByLooks := by
  refine goesByLooks_forTags _ fun h _ _ => ?_
  simp only [parent?_any_eq_of_looksLike h]

theorem goesByLooks_inlineCode : inlineCode.GoesByLooks := by
  refine goesByLooks_ofFunction (fun h _ => ?_) fun _ _ _ => rfl
  simp only [Filter.accepts, tagName_eq_of_looksLike h, isCodeBlock_eq_of_looksLike h]

theorem goesByLooks_inlineLink : inlineLink.GoesByLooks := by
  refine goesByLooks_ofFunction (fun h _ => ?_) fun h _ _ => ?_
  · simp only [Filter.accepts, tagName_eq_of_looksLike h, attribute?_eq_of_looksLike h]
  · rw [attribute?_eq_of_looksLike h, titlePart_eq_of_looksLike h]

theorem goesByLooks_image : image.GoesByLooks := by
  refine goesByLooks_forTag _ fun h _ _ => ?_
  simp only [attribute?_eq_of_looksLike h, titlePart_eq_of_looksLike h]

/-- **The bundled rules go by looks.** Those that are for a tag and whose text depends on the
content alone need no more than that; the others are looked at above. -/
theorem goesByLooks_of_mem_standard {rule : Rule} (hrule : rule ∈ standard.map Prod.snd) :
    rule.GoesByLooks := by
  simp only [standard, List.map_cons, List.map_nil, List.mem_cons, List.not_mem_nil,
    or_false] at hrule
  rcases hrule with rfl | rfl | rfl | rfl | rfl | rfl | rfl | rfl | rfl | rfl | rfl | rfl | rfl
  · exact goesByLooks_forTag "p" fun _ _ _ => rfl
  · exact goesByLooks_forTag "br" fun _ _ _ => rfl
  · exact goesByLooks_heading
  · exact goesByLooks_forTag "hr" fun _ _ _ => rfl
  · exact goesByLooks_forTags ["em", "i"] fun _ _ _ => rfl
  · exact goesByLooks_forTags ["strong", "b"] fun _ _ _ => rfl
  · exact goesByLooks_inlineCode
  · exact goesByLooks_inlineLink
  · exact goesByLooks_image
  · exact goesByLooks_codeBlock
  · exact goesByLooks_forTag "blockquote" fun _ _ _ => rfl
  · exact goesByLooks_listItem
  · exact goesByLooks_list

/-! ## Tags

The bundled rules are told apart by the tags that they are for. All of these are in ASCII, where
the two ways to ignore the case of letters are the same. -/

section Tags

variable {f : String → NodeRef → Options → String}

/-- Between names in ASCII there is no second way to lower a letter, so the filter compares as
names of elements are compared. -/
theorem accepts_forTag {tag : String} (ascii : tag.toList.all Text.isAscii = true) (n : NodeRef)
    (options : Options) :
    (forTag tag f).accepts n options = Text.eqIgnoringCase n.tagName tag := by
  show Text.eqIgnoringCase n.tagName (Text.lowercase tag) = _
  rw [Text.lowercase_eq_asciiLower ascii, Text.eqIgnoringCase, Text.asciiLower_asciiLower]
  rfl

/-- The same for a list of names, any of which will do. -/
theorem accepts_forTags {tags : List String}
    (ascii : ∀ tag ∈ tags, tag.toList.all Text.isAscii = true) (n : NodeRef) (options : Options) :
    (forTags tags f).accepts n options = tags.any (Text.eqIgnoringCase n.tagName) := by
  refine Bool.eq_iff_iff.2 (Filter.accepts_tags.trans ?_)
  rw [List.any_eq_true]
  refine exists_congr fun tag => and_congr_right fun htag => ?_
  exact Bool.eq_iff_iff.1 (accepts_forTag (f := f) (ascii tag htag) n options)

/-- The tags that there is a bundled rule for, whatever else the element is like. -/
def bundledTags : List String :=
  ["p", "br", "h1", "h2", "h3", "h4", "h5", "h6", "hr", "em", "i", "strong", "b", "img", "pre",
   "blockquote", "li", "ul", "ol"]

variable {n : NodeRef} {options : Options}

section NotAmong

variable {names : List String} (hnames : names.any (Text.eqIgnoringCase n.tagName) = false)
include hnames

/-- A tag name that is none of the names in question is not accepted by a filter for one of
them. -/
theorem not_accepts_forTag {tag : String} (ascii : tag.toList.all Text.isAscii = true)
    (hmem : tag ∈ names) : ¬ (forTag tag f).accepts n options = true := by
  rw [accepts_forTag ascii]
  intro heq
  rw [List.any_eq_true.2 ⟨tag, hmem, heq⟩] at hnames
  cases hnames

/-- For a filter with several tags all of them have to be among the names. -/
theorem not_accepts_forTags {tags : List String}
    (ascii : ∀ tag ∈ tags, tag.toList.all Text.isAscii = true) (hsub : tags ⊆ names) :
    ¬ (forTags tags f).accepts n options = true := by
  rw [accepts_forTags ascii, List.any_eq_true]
  rintro ⟨tag, htag, heq⟩
  rw [List.any_eq_true.2 ⟨tag, hsub htag, heq⟩] at hnames
  cases hnames

end NotAmong

theorem not_accepts_inlineCode (h : n.tagName ≠ "code") :
    ¬ inlineCode.accepts n options = true := by
  show ¬ (n.tagName == "code" && _) = true
  rw [beq_eq_false_iff_ne.2 h, Bool.false_and]
  exact Bool.false_ne_true

theorem not_accepts_inlineLink (h : n.tagName ≠ "a") : ¬ inlineLink.accepts n options = true := by
  show ¬ (n.tagName == "a" && _) = true
  rw [beq_eq_false_iff_ne.2 h, Bool.false_and]
  exact Bool.false_ne_true

end Tags

/-- No bundled rule is for this tag. The rules for code and for links ask for more than the tag. -/
def isForeignTag (tag : String) : Bool :=
  !bundledTags.any (Text.eqIgnoringCase tag) && tag != "code" && tag != "a"

end Rule

/-- The names of the bundled rules are all different, so none has replaced another. -/
theorem RuleSet.standard_entries : standard.entries = Rule.standard := rfl

/-- No bundled rule is asked for a tag that all of them leave alone, and so the search goes
through to its end. -/
theorem RuleSet.standard_find?_of_foreign {n : NodeRef} (h : Rule.isForeignTag n.tagName = true)
    (options : Options) : standard.find? n options = none := by
  rw [Rule.isForeignTag, Bool.and_eq_true, Bool.and_eq_true, bne_iff_ne, bne_iff_ne,
    Bool.not_eq_true'] at h
  obtain ⟨⟨hbundled, hcode⟩, hlink⟩ := h
  rw [find?, standard_entries, List.find?_eq_none]
  intro entry hentry
  simp only [Rule.standard, List.mem_cons, List.not_mem_nil, or_false] at hentry
  -- one case for each bundled rule, by the tags that it is for
  rcases hentry with
    rfl | rfl | rfl | rfl | rfl | rfl | rfl | rfl | rfl | rfl | rfl | rfl | rfl
  · exact Rule.not_accepts_forTag hbundled (by decide) (by decide)
  · exact Rule.not_accepts_forTag hbundled (by decide) (by decide)
  · exact Rule.not_accepts_forTags hbundled (by decide) (by decide)
  · exact Rule.not_accepts_forTag hbundled (by decide) (by decide)
  · exact Rule.not_accepts_forTags hbundled (by decide) (by decide)
  · exact Rule.not_accepts_forTags hbundled (by decide) (by decide)
  · exact Rule.not_accepts_inlineCode hcode
  · exact Rule.not_accepts_inlineLink hlink
  · exact Rule.not_accepts_forTag hbundled (by decide) (by decide)
  · exact Rule.not_accepts_forTag hbundled (by decide) (by decide)
  · exact Rule.not_accepts_forTag hbundled (by decide) (by decide)
  · exact Rule.not_accepts_forTag hbundled (by decide) (by decide)
  · exact Rule.not_accepts_forTags hbundled (by decide) (by decide)

/-- A link is for the rule for links if it leads anywhere. -/
theorem RuleSet.standard_find?_of_link {n : NodeRef} {address : String} (htag : n.tagName = "a")
    (haddress : n.attribute? "href" = some address) (hne : address ≠ "") (options : Options) :
    standard.find? n options = some ("inline_link", Rule.inlineLink) := by
  have hbundled : Rule.bundledTags.any (Text.eqIgnoringCase n.tagName) = false := by
    rw [htag]
    decide
  have code : ¬ Rule.inlineCode.accepts n options = true :=
    Rule.not_accepts_inlineCode (by rw [htag]; decide)
  have link : Rule.inlineLink.accepts n options = true := by
    show (n.tagName == "a" && (n.attribute? "href").any (· != "")) = true
    rw [htag, haddress]
    simpa using hne
  rw [find?, standard_entries, Rule.standard, List.find?_cons_of_neg, List.find?_cons_of_neg,
    List.find?_cons_of_neg, List.find?_cons_of_neg, List.find?_cons_of_neg,
    List.find?_cons_of_neg, List.find?_cons_of_neg, List.find?_cons_of_pos]
  · exact link
  · exact code
  · exact Rule.not_accepts_forTags hbundled (by decide) (by decide)
  · exact Rule.not_accepts_forTags hbundled (by decide) (by decide)
  · exact Rule.not_accepts_forTag hbundled (by decide) (by decide)
  · exact Rule.not_accepts_forTags hbundled (by decide) (by decide)
  · exact Rule.not_accepts_forTag hbundled (by decide) (by decide)
  · exact Rule.not_accepts_forTag hbundled (by decide) (by decide)

/-- Code is for the rule for code, unless it is all that a `pre` has in it. -/
theorem RuleSet.standard_find?_of_code {n : NodeRef} (htag : n.tagName = "code")
    (options : Options) :
    standard.find? n options =
      if Rule.isCodeBlock n then none else some ("inline_code", Rule.inlineCode) := by
  have hbundled : Rule.bundledTags.any (Text.eqIgnoringCase n.tagName) = false := by
    rw [htag]
    decide
  have hlink : n.tagName ≠ "a" := by
    rw [htag]
    decide
  have code : Rule.inlineCode.accepts n options = !Rule.isCodeBlock n := by
    show (n.tagName == "code" && !Rule.isCodeBlock n) = _
    rw [htag]
    exact Bool.true_and _
  -- six rules stand before the one for code, and none of them is for this tag
  rw [find?, standard_entries, Rule.standard, List.find?_cons_of_neg, List.find?_cons_of_neg,
    List.find?_cons_of_neg, List.find?_cons_of_neg, List.find?_cons_of_neg, List.find?_cons_of_neg]
  · cases hblock : Rule.isCodeBlock n with
    | false =>
      rw [List.find?_cons_of_pos (by rw [code, hblock]; rfl)]
      rfl
    -- nor is any of the six after it, when code leaves the element alone
    | true =>
      rw [List.find?_cons_of_neg (by rw [code, hblock]; exact Bool.false_ne_true),
        List.find?_cons_of_neg, List.find?_cons_of_neg, List.find?_cons_of_neg,
        List.find?_cons_of_neg, List.find?_cons_of_neg, List.find?_cons_of_neg]
      · rfl
      · exact Rule.not_accepts_forTags hbundled (by decide) (by decide)
      · exact Rule.not_accepts_forTag hbundled (by decide) (by decide)
      · exact Rule.not_accepts_forTag hbundled (by decide) (by decide)
      · exact Rule.not_accepts_forTag hbundled (by decide) (by decide)
      · exact Rule.not_accepts_forTag hbundled (by decide) (by decide)
      · exact Rule.not_accepts_inlineLink hlink
  · exact Rule.not_accepts_forTags hbundled (by decide) (by decide)
  · exact Rule.not_accepts_forTags hbundled (by decide) (by decide)
  · exact Rule.not_accepts_forTag hbundled (by decide) (by decide)
  · exact Rule.not_accepts_forTags hbundled (by decide) (by decide)
  · exact Rule.not_accepts_forTag hbundled (by decide) (by decide)
  · exact Rule.not_accepts_forTag hbundled (by decide) (by decide)

/-! ## Paragraphs, headings and rules

For each of these tags there is one rule, and no rule before it accepts the tag. -/

namespace RuleSet

variable {n : NodeRef}

/-- A paragraph is found at the first rule. -/
theorem standard_find?_of_paragraph (htag : n.tagName = "p") (options : Options) :
    standard.find? n options = some ("paragraph", Rule.paragraph) := by
  rw [find?, standard_entries, Rule.standard]
  refine List.find?_cons_of_pos ?_
  exact (Rule.accepts_forTag (by decide) n options).trans (by rw [htag]; decide)

/-- The six headings share one rule, which reads the level from the name. -/
theorem standard_find?_of_heading (htag : n.tagName ∈ ["h1", "h2", "h3", "h4", "h5", "h6"])
    (options : Options) : standard.find? n options = some ("heading", Rule.heading) := by
  have headings : ∀ tag ∈ ["h1", "h2", "h3", "h4", "h5", "h6"],
      ["p", "br"].any (Text.eqIgnoringCase tag) = false := by decide
  have hnot := headings n.tagName htag
  rw [find?, standard_entries, Rule.standard]
  refine (List.find?_cons_of_neg ?_).trans
    ((List.find?_cons_of_neg ?_).trans (List.find?_cons_of_pos ?_))
  · exact Rule.not_accepts_forTag hnot (by decide) (by decide)
  · exact Rule.not_accepts_forTag hnot (by decide) (by decide)
  · refine (Rule.accepts_forTags (by decide) n options).trans ?_
    exact List.any_eq_true.2 ⟨n.tagName, htag, Text.eqIgnoringCase_iff.2 rfl⟩

theorem standard_find?_of_rule (htag : n.tagName = "hr") (options : Options) :
    standard.find? n options = some ("horizontal_rule", Rule.horizontalRule) := by
  have hnot : ["p", "br", "h1", "h2", "h3", "h4", "h5", "h6"].any
      (Text.eqIgnoringCase n.tagName) = false := by
    rw [htag]
    decide
  rw [find?, standard_entries, Rule.standard]
  refine (List.find?_cons_of_neg ?_).trans ((List.find?_cons_of_neg ?_).trans
    ((List.find?_cons_of_neg ?_).trans (List.find?_cons_of_pos ?_)))
  · exact Rule.not_accepts_forTag hnot (by decide) (by decide)
  · exact Rule.not_accepts_forTag hnot (by decide) (by decide)
  · exact Rule.not_accepts_forTags hnot (by decide) (by decide)
  · exact (Rule.accepts_forTag (by decide) n options).trans (by rw [htag]; decide)

end RuleSet

/-! ## Code blocks, quotations and lists

These come late in the order of the bundled rules, so there is more to be passed before them: the
rules for a line, among which are those that look at more than the tag. -/

/-- The tags that the rules are for which come before those for code blocks, quotations and
lists. -/
def Rule.earlierTags : List String :=
  ["p", "br", "h1", "h2", "h3", "h4", "h5", "h6", "hr", "em", "i", "strong", "b", "img"]

namespace RuleSet

variable {n : NodeRef}

/-- An element with none of these tags is for one of the last four rules, if it is for any. -/
theorem standard_find?_of_later {options : Options}
    (h : Rule.earlierTags.any (Text.eqIgnoringCase n.tagName) = false) (hcode : n.tagName ≠ "code")
    (hlink : n.tagName ≠ "a") :
    standard.find? n options = (Rule.standard.drop 9).find? (·.2.accepts n options) := by
  rw [find?, standard_entries, Rule.standard, List.find?_cons_of_neg, List.find?_cons_of_neg,
    List.find?_cons_of_neg, List.find?_cons_of_neg, List.find?_cons_of_neg, List.find?_cons_of_neg,
    List.find?_cons_of_neg, List.find?_cons_of_neg, List.find?_cons_of_neg]
  · rfl
  · exact Rule.not_accepts_forTag h (by decide) (by decide)
  · exact Rule.not_accepts_inlineLink hlink
  · exact Rule.not_accepts_inlineCode hcode
  · exact Rule.not_accepts_forTags h (by decide) (by decide)
  · exact Rule.not_accepts_forTags h (by decide) (by decide)
  · exact Rule.not_accepts_forTag h (by decide) (by decide)
  · exact Rule.not_accepts_forTags h (by decide) (by decide)
  · exact Rule.not_accepts_forTag h (by decide) (by decide)
  · exact Rule.not_accepts_forTag h (by decide) (by decide)

/-- No rule before the code block is for `pre`. -/
theorem standard_find?_of_pre (htag : n.tagName = "pre") (options : Options) :
    standard.find? n options = some ("code_block", Rule.codeBlock) := by
  rw [standard_find?_of_later (by rw [htag]; decide) (by rw [htag]; decide) (by rw [htag]; decide)]
  refine List.find?_cons_of_pos ?_
  exact (Rule.accepts_forTag (by decide) n options).trans (by rw [htag]; decide)

theorem standard_find?_of_blockquote (htag : n.tagName = "blockquote") (options : Options) :
    standard.find? n options = some ("blockquote", Rule.blockquote) := by
  have hnot : ["pre"].any (Text.eqIgnoringCase n.tagName) = false := by
    rw [htag]
    decide
  rw [standard_find?_of_later (by rw [htag]; decide) (by rw [htag]; decide) (by rw [htag]; decide)]
  refine (List.find?_cons_of_neg ?_).trans (List.find?_cons_of_pos ?_)
  · exact Rule.not_accepts_forTag hnot (by decide) (by decide)
  · exact (Rule.accepts_forTag (by decide) n options).trans (by rw [htag]; decide)

/-- An item is found by its own rule, whatever list it stands in. -/
theorem standard_find?_of_item (htag : n.tagName = "li") (options : Options) :
    standard.find? n options = some ("list_item", Rule.listItem) := by
  have hnot : ["pre", "blockquote"].any (Text.eqIgnoringCase n.tagName) = false := by
    rw [htag]
    decide
  rw [standard_find?_of_later (by rw [htag]; decide) (by rw [htag]; decide) (by rw [htag]; decide)]
  refine (List.find?_cons_of_neg ?_).trans
    ((List.find?_cons_of_neg ?_).trans (List.find?_cons_of_pos ?_))
  · exact Rule.not_accepts_forTag hnot (by decide) (by decide)
  · exact Rule.not_accepts_forTag hnot (by decide) (by decide)
  · exact (Rule.accepts_forTag (by decide) n options).trans (by rw [htag]; decide)

/-- Both kinds of list share a rule; what tells them apart is the marker of their items. -/
theorem standard_find?_of_list (htag : n.tagName = "ul" ∨ n.tagName = "ol") (options : Options) :
    standard.find? n options = some ("list", Rule.list) := by
  have hnot : ["pre", "blockquote", "li"].any (Text.eqIgnoringCase n.tagName) = false := by
    rcases htag with htag | htag <;> rw [htag] <;> decide
  have hearlier : Rule.earlierTags.any (Text.eqIgnoringCase n.tagName) = false ∧
      n.tagName ≠ "code" ∧ n.tagName ≠ "a" := by
    rcases htag with htag | htag <;> rw [htag] <;> decide
  rw [standard_find?_of_later hearlier.1 hearlier.2.1 hearlier.2.2]
  refine (List.find?_cons_of_neg ?_).trans ((List.find?_cons_of_neg ?_).trans
    ((List.find?_cons_of_neg ?_).trans (List.find?_cons_of_pos ?_)))
  · exact Rule.not_accepts_forTag hnot (by decide) (by decide)
  · exact Rule.not_accepts_forTag hnot (by decide) (by decide)
  · exact Rule.not_accepts_forTag hnot (by decide) (by decide)
  · refine (Rule.accepts_forTags (by decide) n options).trans ?_
    rcases htag with htag | htag <;> rw [htag] <;> decide

end RuleSet

/-- All rules of the set go by looks. -/
def RuleSet.GoesByLooks (rules : RuleSet) : Prop :=
  ∀ entry ∈ rules.entries, entry.2.GoesByLooks

/-- Which rule is for an element depends on how it looks. -/
theorem RuleSet.GoesByLooks.find?_eq {rules : RuleSet} (looks : rules.GoesByLooks) {n m : NodeRef}
    (h : n.LooksLike m) (options : Options) : rules.find? n options = rules.find? m options :=
  List.find?_congr fun entry hentry => (looks entry hentry).accepts_eq h options

end Tagdown
