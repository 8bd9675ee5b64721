import Tagdown.Proofs.Conversion.Run
import Tagdown.Proofs.Entity.References
import Tagdown.Proofs.LevelOrder.Queue

/-!
# What is printed when all elements are kept

A converter without rules that keeps what it has no rule for leaves a normalized document as it is,
if none of its elements is blank. What it prints is not the markup of that document, though: the
references in the markup are decoded, in texts and in the values of attributes alike.

A reference that is decoded leaves fewer characters than it was written with
(`Entity.decode_eq_self_or_ink_lt`), and the final form of a text has all characters that are no
white space. So the markup is printed as it is just if there is no reference in it to be decoded
(`Converter.convertTree_eq_markup_iff`). A quote in the value of an attribute is enough that it is
not (`Converter.convertTree_quotation_ne`).
-/

namespace Tagdown

/-- The final form tells a text from what it is when it is decoded. -/
theorem tidy_decode_eq_iff (s : List Char) :
    Text.tidy (Entity.decode s) = Text.tidy s ↔ Entity.decode s = s := by
  refine ⟨fun h => ?_, fun h => congrArg Text.tidy h⟩
  have words : Text.words (Text.marks (Entity.decode s)) = Text.words (Text.marks s) := by
    rw [← Text.words_tidy, h, Text.words_tidy]
  have same := Text.ink_eq_of_words words
  exact (Entity.decode_eq_self_or_ink_lt s).resolve_right (by omega)

namespace Converter

open Tagdown.Tree (root)

variable {c : Converter} {t : Tree} {x : NodeId}

/-- The element is kept by its visit: no rule is for it, and it is not blank. -/
theorem visit_of_keep (hrules : c.rules = .empty) (policy : c.options.unmatched = .keep)
    (hasked : c.IsAsked ⟨t, x⟩) : c.visit t x = .ok t := by
  have replacement : c.replacement? ⟨t, x⟩ = .ok none :=
    replacement?_of_asked_none hasked (by rw [hrules]; rfl)
  rw [visit, replacement]
  split
  · rfl
  · simp only [Except.map, policy]

theorem visitAll_of_keep {ids : List NodeId} (h : ∀ x ∈ ids, c.visit t x = .ok t) :
    c.visitAll t ids = .ok t := by
  induction ids with
  | nil => rfl
  | cons x ids ih =>
    rw [visitAll, List.foldlM_cons, h x List.mem_cons_self]
    exact ih fun y hy => h y (List.mem_cons_of_mem x hy)

/-- **What is kept is printed decoded.** If none of its elements is blank, a normalized document is
what a converter without rules prints that keeps all elements. All references in its markup are
decoded, so the markup is printed as it is just if there is nothing in it to be decoded. -/
theorem convertTree_eq_markup_iff (h : t.WellFormed) (hrules : c.rules = .empty)
    (policy : c.options.unmatched = .keep)
    (hblank : ∀ x, (t.normalize c.options).Reaches root x →
      c.options.isVoid ((t.normalize c.options).tagName x) = true ∨
        Text.isBlank ((t.normalize c.options).innerHtml x).toList = false) :
    c.convertTree t = .ok (Text.mapChars Text.tidy
        (decodeEntities ((t.normalize c.options).innerHtml root))) ∧
      (c.convertTree t =
          .ok (Text.mapChars Text.tidy ((t.normalize c.options).innerHtml root)) ↔
        decodeEntities ((t.normalize c.options).innerHtml root) =
          (t.normalize c.options).innerHtml root) := by
  have hforest := (Tree.trims_normalize t c.options).isForest h.forest
  -- each visit keeps its element and changes nothing
  have visits : ∀ x ∈ ((t.normalize c.options).levelOrder root).reverse,
      c.visit (t.normalize c.options) x = .ok (t.normalize c.options) := by
    intro x hx
    rw [List.mem_reverse, Tree.mem_levelOrder_iff_reaches hforest] at hx
    exact visit_of_keep hrules policy (hblank x hx)
  have value : c.convertTree t = .ok (Text.mapChars Text.tidy
      (decodeEntities ((t.normalize c.options).innerHtml root))) := by
    rw [convertTree, visitAll_of_keep visits]
    rfl
  -- tidying cannot bring back what decoding has taken
  refine ⟨value, ?_⟩
  rw [value, Except.ok.injEq, ← String.toList_inj, ← String.toList_inj, Text.toList_mapChars,
    Text.toList_mapChars, decodeEntities, Text.toList_mapChars]
  exact tidy_decode_eq_iff _

/-- No rules, and all elements are kept. -/
def keepsAll : Converter where
  rules := .empty
  options := { unmatched := .keep }

/-- A paragraph with a class and a line break in it. -/
def keptParagraph : Tree :=
  Tree.empty.run
    [.createElement "p" [⟨"class", "x; y"⟩], .append root ⟨1⟩, .createText "one  ", .append ⟨1⟩ ⟨2⟩,
     .createElement "br" [], .append ⟨1⟩ ⟨3⟩, .createText "two", .append ⟨1⟩ ⟨4⟩]

theorem convertTree_eq_markup_iff_keptParagraph :
    keptParagraph.WellFormed ∧ keepsAll.rules = .empty ∧ keepsAll.options.unmatched = .keep ∧
      (∀ x, (keptParagraph.normalize keepsAll.options).Reaches root x →
        keepsAll.options.isVoid ((keptParagraph.normalize keepsAll.options).tagName x) = true ∨
          Text.isBlank ((keptParagraph.normalize keepsAll.options).innerHtml x).toList = false) ∧
      keepsAll.convertTree keptParagraph = .ok "<p class=\"x; y\">one <br>two</p>" := by
  have h : keptParagraph.WellFormed := Tree.WellFormed.run _ Tree.wellFormed_empty
    (Tree.allAllowed_of_areAllowed (by decide +kernel))
  have hforest := (Tree.trims_normalize keptParagraph keepsAll.options).isForest h.forest
  -- what the theorem asks about the normalized document, evaluated in one go
  have facts : (∀ x ∈ (keptParagraph.normalize keepsAll.options).levelOrder root,
        keepsAll.options.isVoid ((keptParagraph.normalize keepsAll.options).tagName x) = true ∨
          Text.isBlank ((keptParagraph.normalize keepsAll.options).innerHtml x).toList = false) ∧
      decodeEntities ((keptParagraph.normalize keepsAll.options).innerHtml root) =
        (keptParagraph.normalize keepsAll.options).innerHtml root ∧
      Text.mapChars Text.tidy ((keptParagraph.normalize keepsAll.options).innerHtml root) =
        "<p class=\"x; y\">one <br>two</p>" := by
    decide +kernel
  obtain ⟨solid, plain, html⟩ := facts
  have hblank := fun x hx => solid x ((Tree.mem_levelOrder_iff_reaches hforest).2 hx)
  obtain ⟨-, same⟩ := convertTree_eq_markup_iff h rfl rfl hblank
  exact ⟨h, rfl, rfl, hblank, (same.2 plain).trans (congrArg _ html)⟩

/-- An element with quotes in the value of an attribute. -/
def quotation : Tree :=
  Tree.empty.run
    [.createElement "span" [⟨"title", "say \"hi\""⟩], .append root ⟨1⟩, .createText "x",
     .append ⟨1⟩ ⟨2⟩]

/-- The quotes around the value and those in it cannot be told apart any longer. -/
theorem convertTree_quotation_ne :
    quotation.WellFormed ∧ keepsAll.rules = .empty ∧ keepsAll.options.unmatched = .keep ∧
      (∀ x, (quotation.normalize keepsAll.options).Reaches root x →
        keepsAll.options.isVoid ((quotation.normalize keepsAll.options).tagName x) = true ∨
          Text.isBlank ((quotation.normalize keepsAll.options).innerHtml x).toList = false) ∧
      keepsAll.convertTree quotation = .ok "<span title=\"say \"hi\"\">x</span>" ∧
      keepsAll.convertTree quotation ≠
        .ok (Text.mapChars Text.tidy ((quotation.normalize keepsAll.options).innerHtml root)) := by
  have h : quotation.WellFormed := Tree.WellFormed.run _ Tree.wellFormed_empty
    (Tree.allAllowed_of_areAllowed (by decide +kernel))
  have hforest := (Tree.trims_normalize quotation keepsAll.options).isForest h.forest
  have facts : (∀ x ∈ (quotation.normalize keepsAll.options).levelOrder root,
        keepsAll.options.isVoid ((quotation.normalize keepsAll.options).tagName x) = true ∨
          Text.isBlank ((quotation.normalize keepsAll.options).innerHtml x).toList = false) ∧
      keepsAll.convertTree quotation = .ok "<span title=\"say \"hi\"\">x</span>" ∧
      keepsAll.convertTree quotation ≠
        .ok (Text.mapChars Text.tidy ((quotation.normalize keepsAll.options).innerHtml root)) := by
    decide +kernel
  obtain ⟨solid, value, differ⟩ := facts
  exact ⟨h, rfl, rfl, fun x hx => solid x ((Tree.mem_levelOrder_iff_reaches hforest).2 hx), value,
    differ⟩

end Converter

end Tagdown
