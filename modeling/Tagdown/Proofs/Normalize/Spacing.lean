import Tagdown.Proofs.Normalize.Words
import Tagdown.Proofs.Text.Spacing

/-!
# Where normalization makes white space

Normalization drops and collapses white space, and so two characters with nothing between them
should have nothing between them afterwards. The exception is a text without any character. It
counts as white space, since there is nothing else in it, and becomes a space where white space
would (`Row.IsHole`).

`Tree.spacing` is the text of a document with a mark for each such text, and these alone decide
whether white space is made (`keepsTogether_textContent_normalize_iff`). The texts are looked at
when comments are gone and texts that touch each other are one, so an empty text beside another text
does no harm.
-/

namespace Tagdown

open Text

variable {options : Options} {parent : Label}

/-- A text without characters becomes a space: white space is not kept below the parent, no block is
beside the text, and it does not stand at an end that is trimmed. -/
def Row.IsHole (options : Options) (parent : Label) (before after : Option Label)
    (t : Rose Node) : Prop :=
  t.kind = .text ∧ t.value = "" ∧ options.isPreformattedLabel parent = false ∧
    besideBlock options before after = false ∧
    ¬ (options.isTrimmedLabel parent = true ∧ (before = none ∨ after = none))

instance (options : Options) (parent : Label) (before after : Option Label) (t : Rose Node) :
    Decidable (Row.IsHole options parent before after t) :=
  inferInstanceAs (Decidable (_ ∧ _ ∧ _ ∧ _ ∧ _))

namespace Rose

mutual

/-- The text of a document, with `none` for each text that becomes a space without having any
character. -/
def spacing (options : Options) : Rose Node → List Mark
  | .node n children =>
    match n.label with
    | .text => marks n.value.toList
    | .element _ _ => spacingFrom options n.label none children
    | .comment => []
    | .document => []

/-- The text of a row after a sibling of the kind `before`. -/
def spacingFrom (options : Options) (parent : Label) : Option Label → Row → List Mark
  | _, [] => []
  | before, t :: ts =>
    (if Row.IsHole options parent before (ts.head?.map Rose.kind) t then [none]
      else spacing options t) ++ spacingFrom options parent (some t.kind) ts

end

/-- A text by itself brings its characters. Whether it is a hole depends on what stands beside
it. -/
theorem spacing_of_text {t : Rose Node} (ht : t.kind = .text) :
    spacing options t = marks t.value.toList := by
  obtain ⟨n, children⟩ := t
  have hn : n.label = .text := ht
  rw [spacing, hn]
  rfl

/-- An element brings what its row brings, read from its start. -/
theorem spacing_of_element {n : Node} (hn : n.label.isElement = true) (row : Row) :
    spacing options (.node n row) = spacingFrom options n.label none row := by
  rw [spacing]
  rcases hlabel : n.label with _ | ⟨tag, attributes⟩ | _ | _
  · rw [hlabel] at hn; cases hn
  · rfl
  · rw [hlabel] at hn; cases hn
  · rw [hlabel] at hn; cases hn

/-- The text of a text node is its value; what may stand below it is not read. -/
theorem gatherText_of_text {t : Rose Node} (ht : t.kind = .text) :
    Node.gatherText t = t.value := by
  obtain ⟨n, children⟩ := t
  exact Node.gatherText_of_text ht children

/-- Without holes, the marks of a text are its characters. -/
theorem reduceOption_marks (s : List Char) : (marks s).reduceOption = s := by
  induction s with
  | nil => rfl
  | cons c s ih => exact congrArg (c :: ·) ih

mutual

/-- What becomes a space without having any character adds nothing to the text. -/
theorem reduceOption_spacing (options : Options) :
    ∀ r : Rose Node, (spacing options r).reduceOption = (Node.gatherText r).toList
  | .node n children => by
    rw [spacing, Node.gatherText]
    rcases n.label with _ | ⟨tag, attributes⟩ | _ | _
    · rfl
    · exact reduceOption_spacingFrom options _ children none
    · exact reduceOption_marks _
    · rfl

/-- The same of a row: a hole stands for a text without characters, so none of them is missing. -/
theorem reduceOption_spacingFrom (options : Options) (parent : Label) :
    ∀ (row : Row) (before : Option Label),
      (spacingFrom options parent before row).reduceOption = (Node.gatherTexts row).toList
  | [], _ => rfl
  | t :: ts, before => by
    rw [spacingFrom, Node.gatherTexts, List.reduceOption_append, String.toList_append,
      reduceOption_spacingFrom options parent ts]
    congr 1
    split
    · rename_i hole
      rw [← reduceOption_spacing options t, spacing_of_text hole.1, hole.2.1]
      rfl
    · exact reduceOption_spacing options t

end

end Rose

namespace Row

open Rose (spacing spacingFrom spacing_of_text)

/-! ## Settling

Each text is settled between two siblings. The mark for a hole depends on the sibling before it
and on the row after it, and so the row is followed from its start with the kind of the sibling
before. -/

/-- What stands before a row matters to a text only. -/
theorem spacingFrom_congr {row : Row} (hhead : ∀ t, row.head? = some t → t.kind ≠ .text)
    (before before' : Option Label) :
    spacingFrom options parent before row = spacingFrom options parent before' row := by
  cases row with
  | nil => rfl
  | cons t ts =>
    have not_hole (before after : Option Label) : ¬ IsHole options parent before after t :=
      fun hole => hhead t rfl hole.1
    rw [spacingFrom, spacingFrom, if_neg (not_hole _ _), if_neg (not_hole _ _)]

/-- No empty text stands where the row is trimmed. -/
def Firm (options : Options) (parent : Label) (before : Option Label) (row : Row) : Prop :=
  options.isTrimmedLabel parent = true →
    (before = none → ∀ t, row.head? = some t → t.kind = .text → t.value ≠ "") ∧
      ∀ t, row.getLast? = some t → t.kind = .text → t.value ≠ ""

/-- What becomes of one text. -/
theorem spaces_settleOne (options : Options) (parent : Label) (before after : Option Label)
    {t : Rose Node} (ht : t.kind = .text)
    (firm : t.value = "" → options.isTrimmedLabel parent = true → before ≠ none ∧ after ≠ none) :
    Spaces (if IsHole options parent before after t then [none] else spacing options t)
      ((settleOne options parent before after t).elim "" Node.gatherText).toList := by
  have text (value : String) : Node.gatherText (t.withValue value) = value :=
    Rose.gatherText_of_text (t := t.withValue value) ht
  rw [settleOne_of_text ht, spacing_of_text ht]
  cases hparent : options.isPreformattedLabel parent with
  | true =>
    -- white space is kept below this parent, so there are no holes
    have not_hole : ¬ IsHole options parent before after t := by
      intro hole
      rw [hole.2.2.1] at hparent
      cases hparent
    rw [if_neg not_hole, if_pos rfl, Option.elim_some, Rose.gatherText_of_text ht]
    exact .refl _
  | false =>
    rw [if_neg Bool.false_ne_true, settleText]
    -- an empty text is dropped beside a block and is a hole elsewhere
    by_cases hempty : t.value = ""
    · rw [hempty]
      cases hbeside : besideBlock options before after with
      | true =>
        have not_hole : ¬ IsHole options parent before after t := by
          intro hole
          rw [hole.2.2.2.1] at hbeside
          cases hbeside
        rw [if_neg not_hole]
        exact .nil
      | false =>
        have hole : IsHole options parent before after t := by
          refine ⟨ht, hempty, hparent, hbeside, fun htrimmed => ?_⟩
          obtain ⟨hbefore, hafter⟩ := firm hempty htrimmed.1
          exact htrimmed.2.elim hbefore hafter
        rw [if_pos hole]
        simp only [String.toList_empty, List.all_nil, if_true, Bool.false_eq_true, if_false,
          Option.map_some, Option.elim_some, text]
        exact .hole
    · rw [if_neg fun hole => hempty hole.2.1]
      split
      -- a text of white space is dropped or becomes one space
      · rename_i hall
        have hne : t.value.toList ≠ [] := mt String.toList_eq_nil_iff.1 hempty
        split
        · exact .dropped hall
        · rw [Option.map_some, Option.elim_some, text]
          exact .white hall hne rfl
      · rw [Option.map_some, Option.elim_some, text, String.toList_ofList]
        exact .collapseFrom _ false

/-- What follows the first tree of a row is firm too, if it begins with no text or has something
before it. -/
theorem Firm.cons {before : Option Label} {t : Rose Node} {row : Row}
    (firm : Firm options parent before (t :: row)) (before' : Option Label)
    (hhead : before' = none → ∀ u, row.head? = some u → u.kind ≠ .text) :
    Firm options parent before' row := by
  intro htrimmed
  refine ⟨fun hbefore u hu htext => absurd htext (hhead hbefore u hu), fun u hu => ?_⟩
  refine (firm htrimmed).2 u ?_
  cases row with
  | nil => cases hu
  | cons v vs => rwa [List.getLast?_cons_cons]

/-- What becomes of a row that is trimmed already, or is not to be. -/
theorem spaces_settleFrom {row : Row} (joined : Joined row)
    (ih : ∀ t ∈ row, Spaces (spacing options t) (Node.gatherText (t.settled options)).toList) :
    ∀ before, Firm options parent before row →
      Spaces (spacingFrom options parent before row)
        (Node.gatherTexts
          (settleFrom options parent before (row.map (Rose.settled options)))).toList := by
  induction row with
  | nil => exact fun _ _ => .nil
  | cons t ts ihts =>
    intro before firm
    have hafter : (ts.map (Rose.settled options)).head?.map Rose.kind = ts.head?.map Rose.kind := by
      cases ts <;> simp
    have rest := ihts joined.tail fun u hu => ih u (List.mem_cons_of_mem t hu)
    rw [spacingFrom, List.map_cons, settleFrom, hafter]
    by_cases htext : t.kind = .text
    · have settled : t.settled options = t := Rose.settled_of_leaf (by rw [htext]; rfl)
      have hnext := fun u => joined.head?_kind_ne (u := u) htext
      have one := spaces_settleOne options parent before (ts.head?.map Rose.kind) htext
        fun hempty htrimmed => by
          obtain ⟨hfirst, hlast⟩ := firm htrimmed
          refine ⟨fun hbefore => hfirst hbefore t rfl htext hempty, fun hnone => ?_⟩
          obtain rfl : ts = [] := by simpa using hnone
          exact hlast t rfl htext hempty
      rw [settled]
      rcases hone : settleOne options parent before (ts.head?.map Rose.kind) t with _ | t'
      · -- what follows is no text, so it does not matter that this one is gone
        rw [hone] at one
        rw [spacingFrom_congr hnext _ before]
        exact one.append (rest before (firm.cons before fun _ => hnext))
      · rw [hone] at one
        rw [Node.gatherTexts, String.toList_append, htext]
        exact one.append (rest (some .text) (firm.cons (some .text) fun _ => hnext))
    · have hinner : (t.settled options).kind.isLeaf = false := by
        have hcomment := joined.kind_ne List.mem_cons_self
        rw [Rose.kind_settled]
        cases hkind : t.kind <;> simp_all [Label.isLeaf]
      rw [settleOne_of_not_leaf hinner, if_neg fun hole => htext hole.1, Rose.kind_settled]
      dsimp only
      rw [Node.gatherTexts, String.toList_append]
      refine (ih t List.mem_cons_self).append (rest (some t.kind) (firm.cons _ fun hnone => ?_))
      cases hnone

/-! ## Trimming

An empty text at an end that is trimmed is no hole, and it goes as white space does. So the marks
that are lost by trimming are white space only. -/

/-- A text at an end that is trimmed is no hole. -/
theorem spacing_end (before after : Option Label) {t : Rose Node} (ht : t.kind = .text)
    (htrimmed : options.isTrimmedLabel parent = true) (hend : before = none ∨ after = none) :
    (if IsHole options parent before after t then [none] else spacing options t) =
      marks t.value.toList := by
  rw [if_neg fun hole => hole.2.2.2.2 ⟨htrimmed, hend⟩, spacing_of_text ht]

/-- What is trimmed at the start of a row is white space before everything else in it. An empty
text at this place is no hole, so it is not missed. -/
theorem spacingFrom_trimStart {row : Row} (joined : Joined row)
    (htrimmed : options.isTrimmedLabel parent = true) :
    ∃ w, w.all isCollapsible = true ∧
      spacingFrom options parent none row =
        marks w ++ spacingFrom options parent none (trimStart row) := by
  cases row with
  | nil => exact ⟨[], rfl, rfl⟩
  | cons t ts =>
    rw [trimStart, trimFirst]
    by_cases htext : t.kind = .text
    · have hnext := fun u => joined.head?_kind_ne (u := u) htext
      rw [if_pos htext, spacingFrom, spacing_end _ _ htext htrimmed (Or.inl rfl)]
      have split := List.takeWhile_append_dropWhile (p := isCollapsible) (l := t.value.toList)
      rw [← trimStartWhile] at split
      refine ⟨t.value.toList.takeWhile isCollapsible, List.all_takeWhile .., ?_⟩
      split
      -- the text was blank: it goes, and no other text follows it
      · rename_i hnil
        rw [List.isEmpty_iff.1 hnil, List.append_nil] at split
        have hsame : trimFirst (trimStartWhile isCollapsible) ts = ts := by
          cases ts with
          | nil => rfl
          | cons u us => rw [trimFirst, if_neg (hnext u rfl)]
        rw [hsame, split, spacingFrom_congr hnext _ none]
      -- the text had more in it: it stays with what is left
      · have trimmed := @spacing_end options parent none (ts.head?.map Rose.kind)
          (t.withValue (String.ofList (trimStartWhile isCollapsible t.value.toList))) htext
          htrimmed (Or.inl rfl)
        rw [Rose.value_withValue, String.toList_ofList] at trimmed
        rw [spacingFrom, trimmed, Rose.kind_withValue, ← List.append_assoc, ← marks_append, split]
    · rw [if_neg htext]
      exact ⟨[], rfl, rfl⟩

/-- A text at the end of a trimmed row is no hole, and what stands before it cannot be one because
of it, since that is no text. -/
theorem spacingFrom_concat {front : Row} {t : Rose Node} (ht : t.kind = .text)
    (htrimmed : options.isTrimmedLabel parent = true)
    (hlast : ∀ u, front.getLast? = some u → u.kind ≠ .text) :
    ∀ before, spacingFrom options parent before (front ++ [t]) =
      spacingFrom options parent before front ++ marks t.value.toList := by
  induction front with
  | nil =>
    intro before
    show (if IsHole options parent before none t then [none] else spacing options t) ++ [] = _
    rw [spacing_end _ _ ht htrimmed (Or.inr rfl), List.append_nil]
    rfl
  | cons u us ih =>
    intro before
    have hlast' : ∀ v, us.getLast? = some v → v.kind ≠ .text := by
      intro v hv
      refine hlast v ?_
      rw [List.getLast?_cons, hv]
      rfl
    rw [List.cons_append, spacingFrom, spacingFrom, ih hlast', List.append_assoc]
    cases us with
    | nil =>
      -- the neighbour of the text is no text, so what it is beside does not matter
      have hkind := hlast u rfl
      rw [if_neg fun hole => hkind hole.1, if_neg fun hole => hkind hole.1]
    | cons v vs => rfl

/-- What is trimmed at the end of a row is white space after everything else in it. -/
theorem spacingFrom_trimEnd {row : Row} (joined : Joined row)
    (htrimmed : options.isTrimmedLabel parent = true) (before : Option Label) :
    ∃ w, w.all isCollapsible = true ∧
      spacingFrom options parent before row =
        spacingFrom options parent before (trimEnd row) ++ marks w := by
  rcases List.eq_nil_or_concat' row with rfl | ⟨front, t, rfl⟩
  · exact ⟨[], rfl, rfl⟩
  · rw [trimEnd, List.reverse_concat, trimFirst]
    by_cases htext : t.kind = .text
    · have hlast := fun u => joined.getLast?_kind_ne (u := u) htext
      have split := trimEndWhile_append isCollapsible t.value.toList
      rw [if_pos htext, spacingFrom_concat htext htrimmed hlast]
      refine ⟨(t.value.toList.reverse.takeWhile isCollapsible).reverse, ?_, ?_⟩
      · rw [List.all_reverse]
        exact List.all_takeWhile ..
      split
      -- the text was blank: it goes, and no other text stands before it
      · rename_i hnil
        rw [List.isEmpty_iff.1 hnil, List.nil_append] at split
        have hsame : trimFirst (trimEndWhile isCollapsible) front.reverse = front.reverse := by
          cases hfront : front.reverse with
          | nil => rfl
          | cons u us =>
            have hu : front.getLast? = some u := by
              rw [← List.head?_reverse, hfront]
              rfl
            rw [trimFirst, if_neg (hlast u hu)]
        rw [hsame, List.reverse_reverse, split]
      -- the text had more in it: it stays with what is left
      · have trimmed := @spacingFrom_concat options parent front
          (t.withValue (String.ofList (trimEndWhile isCollapsible t.value.toList))) htext
          htrimmed hlast before
        rw [Rose.value_withValue, String.toList_ofList] at trimmed
        rw [List.reverse_cons, List.reverse_reverse, trimmed, List.append_assoc, ← marks_append,
          split]
    · rw [if_neg htext, List.reverse_cons, List.reverse_reverse]
      exact ⟨[], rfl, (List.append_nil _).symm⟩

/-! ## All that happens to a row

Trimming at both ends and settling, put together, and then carried through the levels of a
document. -/

/-- **One row.** What is known of the trees in it carries over to the row: first what is at the
two ends is trimmed, and then the texts are settled one by one. -/
theorem spaces_settle {row : Row} (joined : Joined row)
    (ih : ∀ t ∈ row, Spaces (spacing options t) (Node.gatherText (t.settled options)).toList) :
    Spaces (spacingFrom options parent none row)
      (Node.gatherTexts (settle options parent (Rose.settledAll options row))).toList := by
  rw [settle, Rose.settledAll_eq_map]
  cases htrimmed : options.isTrimmedLabel parent with
  | false =>
    rw [if_neg Bool.false_ne_true]
    refine spaces_settleFrom joined ih none fun h => ?_
    rw [htrimmed] at h
    cases h
  | true =>
    obtain ⟨w, hw, hstart⟩ := spacingFrom_trimStart joined htrimmed
    obtain ⟨w', hw', hend⟩ := spacingFrom_trimEnd joined.trimStart htrimmed none
    -- trimming has made new texts, and of a text the claim holds anyway
    have ih' : ∀ t ∈ trimEnd (trimStart row),
        Spaces (spacing options t) (Node.gatherText (t.settled options)).toList := by
      intro t ht
      have hmem : t ∈ row ∨ t.kind = .text := by
        rcases mem_trimFirst (List.mem_reverse.1 ht) with ht | htext
        · exact mem_trimFirst (List.mem_reverse.1 ht)
        · exact Or.inr htext
      rcases hmem with ht | htext
      · exact ih t ht
      · rw [Rose.settled_of_leaf (by rw [htext]; rfl), spacing_of_text htext,
          Rose.gatherText_of_text htext]
        exact .refl _
    -- what stands at the ends after trimming has characters, so it is no hole
    have firm : Firm options parent none (trimEnd (trimStart row)) := by
      intro _
      refine ⟨fun _ t ht htext hempty => ?_, fun t ht htext hempty => ?_⟩
      · obtain ⟨c, rest, hvalue, -⟩ := firstText_trimEnd (firstText_trimStart row) t ht htext
        rw [hempty] at hvalue
        cases hvalue
      · obtain ⟨rest, c, hvalue, -⟩ := firstText_reverse_trimEnd (trimStart row) t
          (by rwa [List.head?_reverse]) htext
        rw [hempty] at hvalue
        simp at hvalue
    have inside := spaces_settleFrom joined.trimStart.trimEnd ih' none firm
    rw [if_pos rfl, trimStart_map_settled, trimEnd_map_settled, hstart, hend]
    -- white space that was trimmed makes no difference on either side
    have whole := (Spaces.dropped hw).append (inside.append (.dropped hw'))
    rwa [List.nil_append, List.append_nil] at whole

/-- In a row in which each text has a character, nothing is a hole. -/
theorem none_not_mem_spacingFrom {row : Row} (filled : Filled row)
    (ih : ∀ t ∈ row, none ∉ spacing options t) :
    ∀ before, none ∉ spacingFrom options parent before row := by
  induction row with
  | nil => exact fun _ => List.not_mem_nil
  | cons t ts ihts =>
    intro before
    have rest := ihts filled.tail (fun u hu => ih u (List.mem_cons_of_mem t hu)) (some t.kind)
    have not_hole : ¬ IsHole options parent before (ts.head?.map Rose.kind) t :=
      fun hole => filled t List.mem_cons_self hole.1 hole.2.1
    rw [spacingFrom, if_neg not_hole, List.mem_append, not_or]
    exact ⟨ih t List.mem_cons_self, rest⟩

/-- There is no hole inside a text. -/
theorem none_not_mem_marks (s : List Char) : none ∉ marks s := by
  simp [marks]

/-- Only an empty text is a hole, and where no text is empty, none becomes so by being joined to
another. -/
theorem none_not_mem_spacingFrom_merged {row : Row} (filled : Filled row)
    (ih : ∀ t ∈ row, none ∉ spacing options t.merged) (before : Option Label) :
    none ∉ spacingFrom options parent before (joinTexts (Rose.mergedAll row)) := by
  have member {t : Rose Node} (ht : t ∈ Rose.mergedAll row) : ∃ u ∈ row, t = u.merged := by
    rw [Rose.mergedAll_eq, List.mem_map] at ht
    obtain ⟨u, hu, rfl⟩ := ht
    exact ⟨u, List.mem_of_mem_filter hu, rfl⟩
  refine none_not_mem_spacingFrom (Filled.joinTexts fun t ht htext => ?_) (fun t ht => ?_) before
  · obtain ⟨u, hu, rfl⟩ := member ht
    rw [Rose.kind_merged] at htext
    rw [value_merged]
    exact filled u hu htext
  · rcases mem_joinTexts ht with ht | htext
    · obtain ⟨u, hu, rfl⟩ := member ht
      exact ih u hu
    · rw [spacing_of_text htext]
      exact none_not_mem_marks _

end Row

namespace Rose

/-- The same of a whole tree. -/
theorem none_not_mem_spacing {r : Rose Node} (h : Everywhere (fun _ row => row.Filled) r) :
    none ∉ spacing options r.merged := by
  induction h with
  | @node n row here below ih =>
    rw [merged]
    rcases hlabel : n.label with _ | ⟨tag, attributes⟩ | _ | _
    · rw [spacing, hlabel]
      exact List.not_mem_nil
    · have helement : n.label.isElement = true := by
        rw [hlabel]
        rfl
      have hleaf := Label.isLeaf_of_isElement helement
      rw [spacing_of_element helement]
      exact Row.none_not_mem_spacingFrom_merged (here hleaf) (ih hleaf) none
    · rw [spacing_of_text (t := .node n _) hlabel]
      exact Row.none_not_mem_marks _
    · rw [spacing, hlabel]
      exact List.not_mem_nil

/-- What becomes of a document that is merged. -/
theorem spaces_settled {r : Rose Node} (h : Everywhere (fun _ row => row.Joined) r) :
    Spaces (spacing options r) (Node.gatherText (r.settled options)).toList := by
  induction h with
  | @node n row here below ih =>
    rcases hlabel : n.label with _ | ⟨tag, attributes⟩ | _ | _
    · rw [spacing, settled, hlabel, if_neg (by decide), Node.gatherText, hlabel]
      exact .nil
    · have helement : n.label.isElement = true := by
        rw [hlabel]
        rfl
      have hleaf := Label.isLeaf_of_isElement helement
      rw [spacing_of_element helement, settled, if_neg (by simp [hleaf]),
        gatherText_of_element helement]
      exact Row.spaces_settle (here hleaf) (ih hleaf)
    · have htext : (node n row).kind = .text := hlabel
      rw [spacing_of_text htext, settled_of_leaf (by rw [htext]; rfl), gatherText_of_text htext]
      exact .refl _
    · rw [spacing, settled_of_leaf (by rw [kind, label, hlabel]; rfl), hlabel, Node.gatherText,
        hlabel]
      exact .nil

/-- To join texts changes nothing of the text that they make up together. -/
theorem gatherTexts_joinTexts (row : Row) :
    Node.gatherTexts (Row.joinTexts row) = Node.gatherTexts row := by
  induction row with
  | nil => rfl
  | cons t ts ih =>
    rw [Row.joinTexts_cons, Node.gatherTexts, ← ih]
    cases Row.joinTexts ts with
    | nil => rfl
    | cons u us =>
      rw [Row.consText]
      split
      · rename_i htexts
        rw [Node.gatherTexts, Node.gatherTexts, gatherText_of_text htexts.1,
          gatherText_of_text htexts.2,
          gatherText_of_text (t := t.withValue (t.value ++ u.value)) htexts.1,
          value_withValue, String.append_assoc]
      · rfl

mutual

/-- Comments that go and texts that become one do not change the text. -/
theorem gatherText_merged : ∀ r : Rose Node, Node.gatherText r.merged = Node.gatherText r
  | .node n children => by
    rw [merged, Node.gatherText, Node.gatherText, gatherTexts_joinTexts,
      gatherTexts_mergedAll children]

/-- Comments have no text, so it is not missed when they go. -/
theorem gatherTexts_mergedAll :
    ∀ row : Row, Node.gatherTexts (mergedAll row) = Node.gatherTexts row
  | [] => rfl
  | t :: ts => by
    rw [mergedAll, Node.gatherTexts, ← gatherTexts_mergedAll ts]
    split
    · rename_i hcomment
      obtain ⟨n, children⟩ := t
      have hlabel : n.label = .comment := hcomment
      rw [Node.gatherText, hlabel]
      rfl
    · rw [Node.gatherTexts, gatherText_merged t]

end

end Rose

namespace Tree

variable {t : Tree}

/-- The text of the document, with `none` for each text that becomes a space without having any
character. -/
def spacing (t : Tree) (options : Options) : List Mark :=
  Rose.spacingFrom options .document none (t.contents root).merged.children

/-- After the first pass, the row below the root is that of the document without comments and with
its texts joined. -/
theorem children_merged_contents (h : t.WellFormed) :
    (t.contents root).merged.children = Row.joinTexts (Rose.mergedAll (t.row root)) := by
  rw [contents_of_inner h.forest (h.isLeaf_eq_false (Or.inl rfl)), Rose.merged]
  rfl

/-- The characters of the reading are those of the document. -/
theorem reduceOption_spacing (h : t.WellFormed) (options : Options) :
    (t.spacing options).reduceOption = (t.textContent root).toList := by
  rw [spacing, Rose.reduceOption_spacingFrom, children_merged_contents h,
    Rose.gatherTexts_joinTexts, Rose.gatherTexts_mergedAll,
    textContent_eq_row h.forest (h.isLeaf_eq_false (Or.inl rfl))]

/-- **The whole document** is spaced by its normal form. Which characters have white space between
them afterwards is then a matter of the marks alone. -/
theorem spaces_textContent_normalize (h : t.WellFormed) (options : Options) :
    Spaces (t.spacing options) ((t.normalize options).textContent root).toList := by
  have joined := Rose.everywhere_joined (t.contents root)
  have hroot := h.isLeaf_eq_false (Or.inl rfl)
  rw [spacing, textContent_normalize h options (Or.inl rfl),
    row_normalize_of_shown h options (Or.inl rfl), Row.normalized, children_merged_contents h,
    (h.label_eq_document h.root_lt).2 rfl]
  rw [contents_of_inner h.forest hroot, Rose.merged] at joined
  exact Row.spaces_settle (joined.row hroot) fun r hr =>
    Rose.spaces_settled (joined.of_mem hroot hr)

/-- Without an empty text there is nothing for a space to come from. -/
theorem NoEmptyText.not_hasHole (hfull : t.NoEmptyText) (h : t.WellFormed) (options : Options) :
    ¬ HasHole (t.spacing options) := by
  have hroot := h.isLeaf_eq_false (Or.inl rfl)
  have filled : Rose.Everywhere (fun _ row => row.Filled) (t.contents root) :=
    everywhere_contents h (fun p hp => hfull.filled hp) root (Or.inl rfl)
  rw [contents_of_inner h.forest hroot] at filled
  refine not_hasHole_of_not_mem ?_
  rw [spacing, children_merged_contents h]
  exact Row.none_not_mem_spacingFrom_merged (filled.row hroot)
    (fun r hr => Rose.none_not_mem_spacing (filled.of_mem hroot hr)) none

/-- **Where normalization makes white space.** The characters of the document that are no white
space stay as they are, and two of them that stand together do so afterwards, just if they do not
have a text without characters between them that becomes a space. Where no text is empty, none of
them is parted from the next. -/
theorem keepsTogether_textContent_normalize_iff (h : t.WellFormed) (options : Options) :
    ((t.normalize options).textContent root).toList.filter isSolid =
      (t.textContent root).toList.filter isSolid ∧
    (KeepsTogether (t.textContent root).toList ((t.normalize options).textContent root).toList ↔
      ¬ HasHole (t.spacing options)) ∧
    (t.NoEmptyText → KeepsTogether (t.textContent root).toList
      ((t.normalize options).textContent root).toList) := by
  have spaces := spaces_textContent_normalize h options
  have same := spaces.keepsTogether_iff
  have content := spaces.filter_eq
  rw [reduceOption_spacing h] at same content
  exact ⟨content, same, fun hfull => same.2 (hfull.not_hasHole h options)⟩

/-- An empty text beside a block, one that a comment parts from another text, and one at the end. -/
def leftovers : Tree :=
  Tree.empty.run
    [.createElement "b" [], .append root ⟨1⟩, .createText "one", .append ⟨1⟩ ⟨2⟩,
     .createText "", .append root ⟨3⟩, .createElement "p" [], .append root ⟨4⟩,
     .createText "two", .append ⟨4⟩ ⟨5⟩, .createComment "-", .append ⟨4⟩ ⟨6⟩,
     .createText "", .append ⟨4⟩ ⟨7⟩, .createElement "i" [], .append root ⟨8⟩,
     .createText "three", .append ⟨8⟩ ⟨9⟩, .createText "", .append root ⟨10⟩]

/-- In the second document no text is empty. -/
theorem keepsTogether_textContent_normalize_iff_leftovers :
    leftovers.WellFormed ∧ clippings.WellFormed ∧ clippings.NoEmptyText ∧
      KeepsTogether "onetwothree".toList ((leftovers.normalize {}).textContent root).toList ∧
      KeepsTogether (clippings.textContent root).toList
        ((clippings.normalize {}).textContent root).toList := by
  have h : leftovers.WellFormed :=
    WellFormed.run _ wellFormed_empty (allAllowed_of_areAllowed (by decide +kernel))
  have h' : clippings.WellFormed :=
    WellFormed.run _ wellFormed_empty (allAllowed_of_areAllowed (by decide +kernel))
  have hfull : clippings.NoEmptyText := noEmptyText_of_forall_lt h'.forest (by decide +kernel)
  have facts : leftovers.textContent root = "onetwothree" ∧ ¬ HasHole (leftovers.spacing {}) := by
    decide +kernel
  obtain ⟨text, noHole⟩ := facts
  obtain ⟨-, same, -⟩ := keepsTogether_textContent_normalize_iff h {}
  obtain ⟨-, -, full⟩ := keepsTogether_textContent_normalize_iff h' {}
  rw [text] at same
  exact ⟨h, h', hfull, same.2 noHole, full hfull⟩

/-- Two elements of the line with an empty text between them. -/
def hollowGap : Tree :=
  Tree.empty.run
    [.createElement "b" [], .append root ⟨1⟩, .createText "a", .append ⟨1⟩ ⟨2⟩,
     .createText "", .append root ⟨3⟩, .createElement "i" [], .append root ⟨4⟩,
     .createText "b", .append ⟨4⟩ ⟨5⟩]

/-- There is no white space in the document, and there is some in what becomes of it. -/
theorem not_keepsTogether_hollowGap :
    hollowGap.WellFormed ∧ hollowGap.textContent root = "ab" ∧
      (hollowGap.normalize {}).textContent root = "a b" ∧
      ¬ KeepsTogether (hollowGap.textContent root).toList
        ((hollowGap.normalize {}).textContent root).toList := by
  have h : hollowGap.WellFormed :=
    WellFormed.run _ wellFormed_empty (allAllowed_of_areAllowed (by decide +kernel))
  exact ⟨h, by decide +kernel⟩

end Tree

end Tagdown
