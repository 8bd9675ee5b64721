import Tagdown.Proofs.Conversion.Unwrapping
import Tagdown.Proofs.Html.PlainText

/-!
# Converting text without markup

A text without markup is escaped, normalized and put into its final form, whatever the rules and the
options are (`Converter.convert_of_plain`).

No number in it is to be read as a list marker, and so each full stop between a digit and a space is
escaped. But a tab or a line break after the full stop is a space only when the text is normalized,
which is after it was escaped. Just such texts have a marker in the end
(`hasListMarker_convert_iff`, `hasListMarker_convert_tabbed`).
-/

namespace Tagdown

open Tagdown.Tree (root)
open Text (HasListMarker escapeListMarkers isAsciiDigit isCollapsible isBlank mapChars
  not_mem_escapeListMarkers shown tidy)

/-! ## A document without elements

There is nothing to visit, and so the rules do not come in. -/

namespace Converter

variable {t : Tree}

/-- Where there is no element, no rule is asked for. -/
theorem convertTree_of_no_elements (c : Converter) (h : t.WellFormed)
    (hnone : t.elementChildren root = []) : c.convertTree t =
      .ok (mapChars tidy ((t.normalize c.options).textContent root)) := by
  have wf := (Tree.trims_normalize t c.options).wellFormed h
  have hroot : (t.normalize c.options).label root = .document :=
    (wf.label_eq_document wf.root_lt).2 rfl
  have none_left : (t.normalize c.options).elementChildren root = [] := by
    rw [Tree.elementChildren_normalize h c.options (Or.inl rfl), hnone]
  -- no comment is left, no element was there, and the document stands nowhere but at the root
  have texts : ∀ x ∈ (t.normalize c.options).children root,
      (t.normalize c.options).label x = .text := by
    intro x hx
    rcases hlabel : (t.normalize c.options).label x with _ | ⟨tag, attributes⟩ | _ | _
    · exact absurd hlabel
        (wf.label_ne_document (Tree.Shown.below_of_mem wf (Or.inl rfl) hx))
    · have hmem : x ∈ (t.normalize c.options).elementChildren root := by
        refine List.mem_filter.2 ⟨hx, ?_⟩
        rw [Tree.isElement, hlabel]
        rfl
      rw [none_left] at hmem
      cases hmem
    · rfl
    · exact absurd hlabel (Tree.label_normalize_ne_comment h (Or.inl rfl) hx)
  rw [convertTree, Tree.levelOrder, none_left, Tree.levelsFrom_nil]
  rw [Tree.textContent_eq_gathered wf.forest (by rw [hroot]; rfl),
    ← finish_of_texts wf.forest hroot texts]
  rfl

end Converter

/-! ## A document with one text

Such a document is what is read from a text without markup. Its row is a single text with no
sibling, which is trimmed at both ends and collapsed. -/

namespace Row

open Rose (ofText)

/-- To trim a row of one text is to trim the text, which goes if nothing is left of it. -/
theorem trimFirst_ofText (trim : List Char → List Char) (value : String) :
    trimFirst trim [ofText value] =
      if (trim value.toList).isEmpty then [] else [ofText (String.ofList (trim value.toList))] := by
  rw [trimFirst, if_pos (show (ofText value).kind = .text from rfl), trimFirst]
  rfl

/-- No texts are to be joined and no rows are below, so only the white space is left to look
at. -/
theorem normalized_ofText (options : Options) (value : String) :
    Row.normalized options .document [ofText value] =
      settleFrom options .document none (trimEnd (trimStart [ofText value])) := by
  have same : (ofText value).normalized options = ofText value := by
    rw [Rose.normalized, ofText, Rose.merged_of_leaf, Rose.settled_of_leaf rfl]
  have alone : joinTexts [(ofText value).normalized options] = [ofText value] := by
    rw [same]
    rfl
  rw [normalized_eq]
  exact congrArg (settle options .document) alone

/-- Without neighbours the text is collapsed. -/
theorem settleFrom_ofText (options : Options) {value : String}
    (hsolid : ¬ value.toList.all isCollapsible = true) :
    settleFrom options .document none [ofText value] =
      [ofText (mapChars collapseWhitespace value)] := by
  have settled : settleOne options .document none none (ofText value) =
      some (ofText (mapChars collapseWhitespace value)) := by
    rw [settleOne_of_text rfl]
    show (settleText _ value).map _ = _
    rw [settleText, if_neg hsolid]
    rfl
  rw [settleFrom, List.head?_nil, Option.map_none, settled]
  rfl

/-- A text that stands alone under the root is trimmed and collapsed. -/
theorem gatherTexts_normalized_ofText (options : Options) (value : String) :
    Node.gatherTexts (Row.normalized options .document [ofText value]) = mapChars shown value := by
  rw [normalized_ofText, trimStart, trimFirst_ofText, mapChars, shown]
  split
  · rename_i hempty
    rw [List.isEmpty_iff.1 hempty]
    rfl
  · rw [trimEnd, List.reverse_singleton, trimFirst_ofText, String.toList_ofList]
    split
    · rename_i hempty
      rw [List.isEmpty_iff.1 hempty]
      rfl
    · rename_i hne
      have hsolid := Text.not_all_trimEndWhile (mt List.isEmpty_iff.2 hne)
      rw [List.reverse_singleton, settleFrom_ofText options (by rwa [String.toList_ofList]),
        mapChars,
        String.toList_ofList]
      exact String.append_empty

end Row

namespace Tree

theorem row_ofText {value : String} (hne : value ≠ "") :
    (ofText value).row root = [Rose.ofText value] := by
  rw [ofText, if_neg hne]
  cbv

/-- There is no element to be visited. -/
theorem elementChildren_ofText (value : String) : (ofText value).elementChildren root = [] := by
  rw [ofText]
  split <;> cbv

/-- All of this together, for the text of the document. -/
theorem textContent_normalize_ofText (options : Options) (value : String) :
    ((ofText value).normalize options).textContent root = mapChars shown value := by
  have h := wellFormed_ofText value
  have trims := trims_normalize (ofText value) options
  have hroot : (ofText value).label root = .document := (h.label_eq_document h.root_lt).2 rfl
  rw [textContent_eq_row (trims.isForest h.forest) (by rw [trims.label_eq, hroot]; rfl),
    row_normalize_of_shown h options (Or.inl rfl), hroot]
  rcases eq_or_ne value "" with rfl | hne
  · rfl
  · rw [row_ofText hne, Row.gatherTexts_normalized_ofText]

end Tree

namespace Html

/-- Escaping puts in backslashes, and none at the beginning. -/
theorem IsPlain.escapeListMarkers {s : List Char} (h : IsPlain s) :
    IsPlain (escapeListMarkers s) where
  bracket := not_mem_escapeListMarkers (by decide) h.bracket
  ampersand := not_mem_escapeListMarkers (by decide) h.ampersand
  carriageReturn := not_mem_escapeListMarkers (by decide) h.carriageReturn
  nul := not_mem_escapeListMarkers (by decide) h.nul
  byteOrderMark := by
    cases s with
    | nil => exact h.byteOrderMark
    | cons c s =>
      rw [Text.escapeListMarkers, Text.escapeMarkersFrom_false_cons]
      exact h.byteOrderMark

end Html

/-- **Text without markup** is escaped, normalized and put into its final form. It has no elements,
so that the rules and the policy do not matter. -/
theorem Converter.convert_of_plain (c : Converter) {html : String}
    (h : Html.IsPlain html.toList) :
    c.convert html = .ok (mapChars (fun s => tidy (shown (escapeListMarkers s))) html) := by
  have plain : Html.IsPlain (mapChars escapeListMarkers html).toList := by
    rw [Text.toList_mapChars]
    exact h.escapeListMarkers
  rw [convert, Tree.parseHtml_of_plain plain, c.convertTree_of_no_elements
    (Tree.wellFormed_ofText _) (Tree.elementChildren_ofText _), Tree.textContent_normalize_ofText]
  simp only [mapChars, String.toList_ofList]

/-- **When literal text is left that could be read as a list marker.** The Markdown of a text
without markup has a digit, a full stop and a space in it just if there is a digit and a full stop
in the text with other white space after it, and then something to print. -/
theorem hasListMarker_convert_iff {html : String} (h : Html.IsPlain html.toList) :
    ∃ m, convert html = .ok m ∧
      (HasListMarker m.toList ↔ ∃ before d w after,
        html.toList = before ++ d :: '.' :: w :: after ∧ isAsciiDigit d = true ∧
          isCollapsible w = true ∧ w ≠ ' ' ∧ isBlank after = false) := by
  refine ⟨_, Converter.standard.convert_of_plain h, ?_⟩
  rw [Text.toList_mapChars, Text.hasListMarker_tidy_shown_iff]

/-- The second full stop is escaped, and the first is not. -/
theorem hasListMarker_convert_iff_enumeration :
    Html.IsPlain "1.\nfirst, 2. second".toList ∧
      ∃ m, convert "1.\nfirst, 2. second" = .ok m ∧ HasListMarker m.toList := by
  have plain : Html.IsPlain "1.\nfirst, 2. second".toList := by decide
  obtain ⟨m, hm, marker⟩ := hasListMarker_convert_iff plain
  exact ⟨plain, m, hm, marker.2 ⟨[], '1', '\n', "first, 2. second".toList, by decide⟩⟩

/-- A tab after the full stop is a space in the end. -/
theorem hasListMarker_convert_tabbed :
    Html.IsPlain "1.\tFirst".toList ∧ convert "1.\tFirst" = .ok "1. First" ∧
      HasListMarker "1. First".toList := by
  have plain : Html.IsPlain "1.\tFirst".toList := by decide
  have value := Converter.standard.convert_of_plain plain
  exact ⟨plain, value.trans (congrArg Except.ok (by decide)), by decide⟩

end Tagdown
