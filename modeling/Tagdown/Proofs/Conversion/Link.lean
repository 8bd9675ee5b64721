import Tagdown.Proofs.Conversion.Unwrapping
import Tagdown.Proofs.Html.Link

/-!
# Converting a link

A document with a single element becomes what is put in the place of that element
(`Converter.convertTree_of_single`). For a link that is its text and its address, and nothing that
comes after reading changes the address: what is printed is the address that was read
(`convertTree_link`).

But list markers are escaped before the text is read, in markup too. A link comes out with the
address that was written just if no marker is in it (`convert_linkMarkup_iff`,
`convert_linkMarkup_numbered_ne`).
-/

namespace Tagdown

open Tagdown.Tree (root)
open Text (HasListMarker escapeListMarkers mapChars not_mem_escapeListMarkers)

/-! ## A document with a single element

The run has one visit, at a document that is the normalized one. -/

namespace Converter

variable {c : Converter} {t : Tree} {e : NodeId} {markdown : String}

/-- An element that stands alone, with no element in it, is what is put in its place. -/
theorem convertTree_of_single (h : t.WellFormed)
    (order : (t.normalize c.options).levelOrder root = [e])
    (alone : (t.normalize c.options).children root = [e])
    (hmarkdown : c.replacement? ⟨t.normalize c.options, e⟩ = .ok (some markdown)) :
    c.convertTree t = .ok (mapChars Text.tidy markdown) := by
  have wf := (Tree.trims_normalize t c.options).wellFormed h
  rw [convertTree]
  generalize t.normalize c.options = N at order alone hmarkdown wf
  have hparent : N.parent e = some root := wf.forest.mem_iff.1 (by simp [alone])
  have attached : N.parent e ≠ none := by simp [hparent]
  have hne : root ≠ e := (wf.forest.ne_of_mem (by simp [alone])).symm
  obtain ⟨u, hu⟩ : ∃ u : Tree, u = (N.createText markdown).1.replace e ⟨N.size⟩ := ⟨_, rfl⟩
  have visits : c.visitAll N [e] = .ok u := by
    rw [visitAll, List.foldlM_cons, visit, if_neg (by simpa using attached), hmarkdown, hu]
    rfl
  -- the one visit replaces the element
  have o : Outcome c N e [⟨N.size⟩] u := hu ▸ .replaced hmarkdown
  have hnode : u.node ⟨N.size⟩ = { label := .text, value := markdown } := by
    rw [hu, Tree.node_fresh]
  have forest := o.isForest wf.forest
  have children : u.children root = [⟨N.size⟩] := by
    rw [o.children_eq wf.forest attached hne, alone, Arena.splice_cons_self]
    rfl
  have hroot : u.label root = .document :=
    (Tree.label_of_node_eq (o.node_eq wf.root_lt)).trans ((wf.label_eq_document wf.root_lt).2 rfl)
  -- in the end there is nothing in the document but the new text
  have texts : ∀ x ∈ u.children root, u.label x = .text := by
    intro x hx
    rw [children, List.mem_singleton] at hx
    rw [hx, Tree.label, hnode]
  have text : u.gathered (u.children root) = markdown := by
    rw [children, Tree.gathered_singleton, Tree.markup_eq forest, hnode, Node.gatherText]
  rw [order, List.reverse_singleton, visits, ← text, ← finish_of_texts forest hroot texts]
  rfl

end Converter

/-! ## The document with a link

The text of the link is one letter. There is no white space to normalize and nothing to trim, so
that only the rule for links does something. -/

namespace Tree

variable (address : String)

/-- Read off the arena: a text in an element in the document. -/
theorem contents_link : (link address).contents root =
    .node { label := .document } [.node { label := .element "a" [⟨"href", address⟩] }
      [.node { label := .text, value := "x" } []]] := by
  cbv

/-- There is no white space in it to normalize. -/
theorem normalAt_link (options : Options) : (link address).NormalAt options root := by
  have keeps : ∀ adjacent, Row.settleText adjacent "x" = some "x" := by decide
  have text (parent : Label) :
      Row.Normal options parent [.node { label := .text, value := "x" } []] := by
    refine Row.normal_singleton (by decide) (fun _ => ?_) fun _ =>
      ⟨⟨'x', [], rfl, by decide⟩, ⟨[], 'x', rfl, by decide⟩⟩
    rw [Row.settleOne_of_text rfl]
    split
    · rfl
    · exact congrArg (Option.map _) (keeps _)
  rw [NormalAt, contents_link]
  refine .node (fun _ => Row.normal_singleton ?_ ?_ ?_) fun _ t ht => ?_
  iterate 3 exact fun hkind => by cases hkind
  rw [List.mem_singleton.1 ht]
  refine .node (fun _ => text _) fun _ t ht => ?_
  rw [List.mem_singleton.1 ht]
  exact Rose.everywhere_of_text rfl

/-- So both passes leave it as it is. -/
theorem normalize_link (options : Options) : (link address).normalize options = link address := by
  have h := (wellFormed_link address).forest
  have normal := normalAt_link address options
  rw [normalize, stripComments_eq_self h _ root rfl normal]
  exact normalizeNode_eq_self h _ root rfl normal

/-- The text is printed as it stands. -/
theorem innerHtml_link : (link address).innerHtml ⟨1⟩ = "x" := by
  have children : (link address).children ⟨1⟩ = [⟨2⟩] := by cbv
  have texts : ∀ x ∈ (link address).children ⟨1⟩, (link address).label x = .text := by
    intro x hx
    rw [children, List.mem_singleton] at hx
    rw [hx]
    rfl
  rw [innerHtml_of_texts (wellFormed_link address).forest texts, children]
  show Node.writeText (Node.isRawTextTag "a") "x" = "x"
  decide

/-- There is one attribute, and it is found under its name in any case. -/
theorem attribute?_link (name : String) : (link address).attribute? ⟨1⟩ name =
    if Text.eqIgnoringCase "href" name then some address else none := by
  have label : (link address).label ⟨1⟩ = .element "a" [⟨"href", address⟩] := rfl
  rw [attribute?, label, Label.attributes, List.find?_singleton]
  split <;> rfl

end Tree

/-- The rule for links is the first for the element, and it has an address but no title. -/
theorem replacement?_link {address : String} (hne : address ≠ "") :
    Converter.standard.replacement? ⟨Tree.link address, ⟨1⟩⟩ =
      .ok (some ("[x](" ++ address ++ ")")) := by
  have inner : NodeRef.innerHtml ⟨Tree.link address, ⟨1⟩⟩ = "x" := Tree.innerHtml_link address
  have href : NodeRef.attribute? ⟨Tree.link address, ⟨1⟩⟩ "href" = some address :=
    (Tree.attribute?_link address "href").trans (if_pos (by decide))
  have rule := RuleSet.standard_find?_of_link (n := ⟨Tree.link address, ⟨1⟩⟩) rfl href hne {}
  have untitled : NodeRef.attribute? ⟨Tree.link address, ⟨1⟩⟩ "title" = none :=
    (Tree.attribute?_link address "title").trans (if_neg (by decide))
  have title : Rule.titlePart ⟨Tree.link address, ⟨1⟩⟩ = "" := by
    rw [Rule.titlePart, untitled]
    decide
  have content : decodeEntities "x" = "x" := by decide
  have solid : Text.isBlank (NodeRef.innerHtml ⟨Tree.link address, ⟨1⟩⟩).toList = false := by
    rw [inner]
    decide
  rw [Converter.replacement?_of_asked (c := .standard) (Or.inr solid) rule, inner, content]
  -- the template of the rule, with what was found of the element
  show Except.ok (some ("[" ++ "x" ++ "](" ++
    (NodeRef.attribute? ⟨Tree.link address, ⟨1⟩⟩ "href").getD "" ++
      Rule.titlePart ⟨Tree.link address, ⟨1⟩⟩ ++ ")")) = _
  rw [href, title, String.append_empty]
  rfl

/-- The Markdown of a link is in its final form. -/
theorem tidy_link {address : List Char} (hline : '\n' ∉ address) :
    Text.tidy ("[x](".toList ++ (address ++ [')'])) = "[x](".toList ++ (address ++ [')']) := by
  have front : Text.trimStartWhile (fun c => c == '\t' || c == '\r' || c == '\n')
      ("[x](".toList ++ (address ++ [')'])) = "[x](".toList ++ (address ++ [')']) :=
    Text.trimStartWhile_cons_of_not (by decide) _
  rw [Text.tidy_of_not_mem (by simp [hline]), front, ← List.append_assoc,
    Text.trimEndWhile_concat_of_not (p := Text.isWhitespace) (c := ')') (by decide)]

/-- Nothing else is in the document, and the final form has nothing to trim. -/
theorem convertTree_link {address : String} (hne : address ≠ "") (hline : '\n' ∉ address.toList) :
    Converter.standard.convertTree (Tree.link address) = .ok ("[x](" ++ address ++ ")") := by
  have normal : (Tree.link address).normalize Converter.standard.options = Tree.link address :=
    Tree.normalize_link address _
  have order :
      ((Tree.link address).normalize Converter.standard.options).levelOrder root = [⟨1⟩] := by
    rw [normal]
    rfl
  have alone :
      ((Tree.link address).normalize Converter.standard.options).children root = [⟨1⟩] := by
    rw [normal]
    rfl
  have hmarkdown := replacement?_link hne
  rw [← normal] at hmarkdown
  rw [Converter.convertTree_of_single (Tree.wellFormed_link address) order alone hmarkdown,
    mapChars]
  refine congrArg Except.ok (String.toList_inj.1 ?_)
  rw [String.toList_ofList]
  simpa using tidy_link hline

/-! ## From the text to the Markdown

What is written is escaped before it is read. An address without quotes and references is read as
it stands in the markup, with the backslashes that were put into it. -/

namespace Html

/-- Escaping puts in backslashes only. -/
theorem IsPlainValue.escapeListMarkers {s : List Char} (h : IsPlainValue s) :
    IsPlainValue (escapeListMarkers s) where
  quote := not_mem_escapeListMarkers (by decide) h.quote
  ampersand := not_mem_escapeListMarkers (by decide) h.ampersand
  openBracket := not_mem_escapeListMarkers (by decide) h.openBracket
  closeBracket := not_mem_escapeListMarkers (by decide) h.closeBracket
  carriageReturn := not_mem_escapeListMarkers (by decide) h.carriageReturn
  lineFeed := not_mem_escapeListMarkers (by decide) h.lineFeed
  nul := not_mem_escapeListMarkers (by decide) h.nul

/-- The address is escaped like any other text. -/
theorem escapeListMarkers_linkMarkup (address : String) :
    mapChars escapeListMarkers (linkMarkup address) =
      linkMarkup (mapChars escapeListMarkers address) := by
  have parts (s : List Char) : "<a href=\"".toList ++ s ++ "\">x</a>".toList =
      "<a href=".toList ++ '"' :: (s ++ '"' :: ">x</a>".toList) := by
    simp
  have before : Text.escapeMarkersFrom false "<a href=".toList = "<a href=".toList := by decide
  have after : Text.escapeMarkersFrom false ">x</a>".toList = ">x</a>".toList := by decide
  have digit : Text.isAsciiDigit '"' = false := by decide
  rw [← String.toList_inj, Text.toList_mapChars, linkMarkup, linkMarkup]
  simp only [String.toList_append, Text.toList_mapChars]
  rw [parts, parts, escapeListMarkers, escapeListMarkers]
  rw [Text.escapeMarkersFrom_append_cons (by decide) (by decide), before, digit,
    Text.escapeMarkersFrom_append_cons (by decide) (by decide), digit, after]

end Html

/-- A link is printed with its address, escaped as a text is. -/
theorem convert_linkMarkup {address : String} (h : Html.IsPlainValue address.toList)
    (hne : address ≠ "") : convert (Html.linkMarkup address) =
      .ok ("[x](" ++ mapChars escapeListMarkers address ++ ")") := by
  have plain : Html.IsPlainValue (mapChars escapeListMarkers address).toList := by
    rw [Text.toList_mapChars]
    exact h.escapeListMarkers
  have nonempty : mapChars escapeListMarkers address ≠ "" := by
    intro hempty
    have hnil := congrArg String.toList hempty
    rw [Text.toList_mapChars] at hnil
    exact hne (String.toList_eq_nil_iff.1 (Text.escapeListMarkers_eq_nil_iff.1 hnil))
  rw [convert, Converter.convert, Html.escapeListMarkers_linkMarkup,
    Tree.parseHtml_linkMarkup plain, convertTree_link nonempty plain.lineFeed]

/-- **When the address of a link is left as it is.** What is printed is the address that was
written, with a backslash in each list marker. It is the same address just if there is no marker in
it. -/
theorem convert_linkMarkup_iff {address : String} (h : Html.IsPlainValue address.toList)
    (hne : address ≠ "") :
    convert (Html.linkMarkup address) =
        .ok ("[x](" ++ mapChars escapeListMarkers address ++ ")") ∧
      (convert (Html.linkMarkup address) = .ok ("[x](" ++ address ++ ")") ↔
        ¬ HasListMarker address.toList) := by
  refine ⟨convert_linkMarkup h hne, ?_⟩
  rw [convert_linkMarkup h hne, ← Text.escapeListMarkers_eq_self_iff, Except.ok.injEq,
    ← String.toList_inj]
  simp only [String.toList_append, Text.toList_mapChars]
  rw [List.append_cancel_right_eq, List.append_cancel_left_eq]

theorem convert_linkMarkup_iff_version :
    Html.IsPlainValue "v1.2 3.".toList ∧ "v1.2 3." ≠ "" ∧
      convert (Html.linkMarkup "v1.2 3.") = .ok "[x](v1.2 3.)" := by
  have plain : Html.IsPlainValue "v1.2 3.".toList := by decide
  have hne : "v1.2 3." ≠ "" := by decide
  exact ⟨plain, hne, (convert_linkMarkup_iff plain hne).2.2 (by decide)⟩

/-- A number in an address gets a backslash. -/
theorem convert_linkMarkup_numbered_ne :
    Html.IsPlainValue "1. x".toList ∧ "1. x" ≠ "" ∧
      convert (Html.linkMarkup "1. x") = .ok "[x](1\\. x)" ∧
      "[x](1\\. x)" ≠ "[x](" ++ "1. x" ++ ")" := by
  have plain : Html.IsPlainValue "1. x".toList := by decide
  have hne : "1. x" ≠ "" := by decide
  have written : mapChars escapeListMarkers "1. x" = "1\\. x" := by decide
  refine ⟨plain, hne, ?_, by decide⟩
  rw [convert_linkMarkup plain hne, written]
  rfl

end Tagdown
