import Tagdown.Proofs.Normalize.Content

/-!
# Preformatted text

Whether the white space of a text is kept depends on the element that the text stands in, and on no
element around that one. So the text of an element stays what it was if all texts in it stand
directly below preformatted elements (`textContent_normalize_of_keepsTexts`). Text that stands in
another element within a preformatted one does lose white space
(`textContent_normalize_listing_ne`).
-/

namespace Tagdown.Tree

variable {t : Tree} {e c : NodeId} {options : Options}

/-- There is no text directly below the node, or none whose white space is not kept. -/
def KeepsTexts (t : Tree) (options : Options) (x : NodeId) : Prop :=
  t.isPreformattedElement options x = true ∨ ∀ c ∈ t.children x, t.label c ≠ .text

instance (t : Tree) (options : Options) (x : NodeId) : Decidable (t.KeepsTexts options x) :=
  inferInstanceAs (Decidable (_ ∨ _))

/-- Where no child is a text, no tree of the row is. -/
theorem kind_ne_text_of_mem_row (h : ∀ c ∈ t.children e, t.label c ≠ .text) :
    ∀ r ∈ t.row e, r.kind ≠ .text := by
  intro r hr
  obtain ⟨c, hc, rfl⟩ := List.mem_map.1 hr
  rw [kind_contents]
  exact h c hc

/-- Either the row is preformatted and keeps all pieces, or it has no texts, and its pieces are
elements. -/
theorem pieces_row_normalize_of_keepsTexts (h : t.WellFormed) (he : t.Shown e)
    (keeps : t.KeepsTexts options e) (keep : Char → Bool) :
    Row.pieces keep ((t.normalize options).row e) =
      (Row.pieces keep (t.row e)).map (Sum.map (Rose.normalized options) id) := by
  have trims := trims_normalize t options
  have hrow := row_normalize_of_shown h options he
  rcases keeps with hkept | hbare
  · rw [hrow]
    exact Row.pieces_normalized (Or.inr hkept) (t.row e)
  · -- normalization takes nodes out, and so there is still no text
    have hbare' : ∀ c ∈ (t.normalize options).children e,
        (t.normalize options).label c ≠ .text := by
      intro c hc
      rw [trims.label_eq]
      exact hbare c ((trims.children_sublist h.forest e).subset hc)
    rw [Row.pieces_of_no_text (kind_ne_text_of_mem_row hbare),
      Row.pieces_of_no_text (kind_ne_text_of_mem_row hbare'), hrow, Row.elements_normalized,
      List.map_map, List.map_map]
    rfl

/-- The text of an element is that of the row below it. -/
theorem gatherText_contents (h : t.IsForest) (hc : t.isElement c = true) :
    Node.gatherText (t.contents c) = Node.gatherTexts (t.row c) := by
  rw [contents_of_inner h (Label.isLeaf_of_isElement hc)]
  exact Rose.gatherText_of_element (n := { label := t.label c }) hc (t.row c)

/-- By induction from below: the pieces of the row stay, and the elements among them have the text
that they had. -/
theorem gatherTexts_row_normalize (h : t.WellFormed) (options : Options) (e : NodeId) :
    t.Shown e → (∀ x, x = e ∨ t.Reaches e x → t.KeepsTexts options x) →
      Node.gatherTexts ((t.normalize options).row e) = Node.gatherTexts (t.row e) := by
  have trims := trims_normalize t options
  induction e using h.forest.induction_below with
  | step e ih =>
    intro he keeps
    have elements : ∀ r ∈ Row.elements (t.row e),
        Node.gatherText (r.normalized options) = Node.gatherText r := by
      intro r hr
      rw [elements_row] at hr
      obtain ⟨c, hc, rfl⟩ := List.mem_map.1 hr
      have hec := reaches_of_mem h.forest hc
      have hshown : t.Shown c := Or.inr (he.elim (fun hroot => hroot ▸ hec) (·.trans hec))
      have helement : (t.normalize options).isElement c = true := by
        rw [isElement, trims.label_eq]
        exact hec.isElement
      rw [← contents_normalize_of_shown h options hshown,
        gatherText_contents (trims.isForest h.forest) helement,
        gatherText_contents h.forest hec.isElement]
      refine ih c (List.mem_of_mem_filter hc) hshown fun x hx => keeps x (Or.inr ?_)
      rcases hx with rfl | hx
      · exact hec
      · exact hec.trans hx
    -- no character is left out of sight
    have whole := Row.filter_gatherTexts_of_pieces
      (pieces_row_normalize_of_keepsTexts h he (keeps e (Or.inl rfl)) fun _ => true)
      fun r hr => by rw [elements r hr]
    rwa [List.filter_true, List.filter_true, String.toList_inj] at whole

/-- **Preformatted text is kept**: the text of an element does not change, if all texts in it, at
any depth, stand directly below preformatted elements. If one of them stood in an element of the
line inside a preformatted one, its white space would be collapsed. -/
theorem textContent_normalize_of_keepsTexts (h : t.WellFormed) (options : Options)
    (he : t.Shown e) (keeps : ∀ x, x = e ∨ t.Reaches e x → t.KeepsTexts options x) :
    (t.normalize options).textContent e = t.textContent e := by
  rw [textContent_normalize h options he, textContent_eq_row h.forest (h.isLeaf_eq_false he)]
  exact gatherTexts_row_normalize h options e he keeps

/-- Two pieces of code in a preformatted element, one of them in an element without any text. -/
def excerpt : Tree :=
  Tree.empty.run
    [.createElement "pre" [], .append root ⟨1⟩, .createText "\n ", .append ⟨1⟩ ⟨2⟩,
     .createElement "code" [], .append ⟨1⟩ ⟨3⟩, .createText "if  x", .append ⟨3⟩ ⟨4⟩,
     .createElement "b" [], .append ⟨1⟩ ⟨5⟩, .createElement "code" [], .append ⟨5⟩ ⟨6⟩,
     .createText "  y\n", .append ⟨6⟩ ⟨7⟩]

theorem textContent_normalize_of_keepsTexts_excerpt :
    excerpt.WellFormed ∧ excerpt.Shown ⟨1⟩ ∧
      (∀ x, x = ⟨1⟩ ∨ excerpt.Reaches ⟨1⟩ x → excerpt.KeepsTexts {} x) ∧
      (excerpt.normalize {}).textContent ⟨1⟩ = "\n if  x  y\n" := by
  have h : excerpt.WellFormed :=
    WellFormed.run _ wellFormed_empty (allAllowed_of_areAllowed (by decide +kernel))
  have reached : excerpt.Reaches root ⟨1⟩ := .single (by decide +kernel)
  -- every element of the arena will do
  have all : ∀ i < excerpt.size, excerpt.isElement ⟨i⟩ = true → excerpt.KeepsTexts {} ⟨i⟩ := by
    decide +kernel
  have keeps : ∀ x, x = ⟨1⟩ ∨ excerpt.Reaches ⟨1⟩ x → excerpt.KeepsTexts {} x := by
    rintro x (rfl | hx)
    · exact all 1 reached.below.index_lt reached.isElement
    · exact all x.index hx.below.index_lt hx.isElement
  refine ⟨h, Or.inr reached, keeps, ?_⟩
  exact (textContent_normalize_of_keepsTexts h {} (Or.inr reached) keeps).trans (by decide +kernel)

/-- A preformatted element with another element in it. -/
def listing : Tree :=
  Tree.empty.run
    [.createElement "pre" [], .append root ⟨1⟩, .createElement "span" [], .append ⟨1⟩ ⟨2⟩,
     .createText "a  b", .append ⟨2⟩ ⟨3⟩]

/-- That the element around it is preformatted does not keep a text from being collapsed. -/
theorem textContent_normalize_listing_ne :
    listing.WellFormed ∧ listing.LeavesBare root ∧ listing.Reaches root ⟨1⟩ ∧
      listing.isPreformattedElement {} ⟨1⟩ = true ∧
      (listing.normalize {}).textContent ⟨1⟩ ≠ listing.textContent ⟨1⟩ := by
  refine ⟨?_, ?_, .single ?_, ?_, ?_⟩
  · exact WellFormed.run _ wellFormed_empty (allAllowed_of_areAllowed (by decide +kernel))
  · exact leavesBare_of_forall_lt _ (by decide +kernel)
  all_goals decide +kernel

end Tagdown.Tree
