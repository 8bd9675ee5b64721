import Tagdown.Proofs.Normalize.Content
import Tagdown.Proofs.Text.Words

/-!
# Normalization keeps the words of a document

`Tree.reading` is what is read of a document: the characters of its texts, and a boundary wherever a
block begins or ends. Normalization drops white space and moves none, but it drops it only where
white space or a boundary stays beside it. So the words that are read are the same before and after
(`words_reading_normalize`).

A text without any character is the exception. It becomes a space if no block is beside it, and then
it does end a word. That no text is empty is asked of all rows as `Row.Filled`.
-/

namespace Tagdown

open Text

variable {options : Options} {parent : Label}

/-! ## Reading -/

namespace Rose

mutual

/-- What is read of a document, as marks. -/
def reading (options : Options) : Rose Node → List Mark
  | .node n children =>
    match n.label with
    | .text => marks n.value.toList
    | .element tag _ =>
      if options.isBlock tag then none :: (readingAll options children ++ [none])
      else readingAll options children
    | .comment => []
    | .document => []

/-- What is read of a row of documents. -/
def readingAll (options : Options) : Row → List Mark
  | [] => []
  | t :: ts => reading options t ++ readingAll options ts

end

/-- A row is read tree by tree, and nothing is between them. -/
theorem readingAll_eq_flatMap (options : Options) (row : Row) :
    readingAll options row = row.flatMap (reading options) := by
  induction row with
  | nil => rfl
  | cons t ts ih => rw [readingAll, ih, List.flatMap_cons]

/-- Rows that follow each other are read one after the other. -/
theorem readingAll_append (row row' : Row) :
    readingAll options (row ++ row') = readingAll options row ++ readingAll options row' := by
  rw [readingAll_eq_flatMap, readingAll_eq_flatMap, readingAll_eq_flatMap, List.flatMap_append]

theorem readingAll_singleton (t : Rose Node) : readingAll options [t] = reading options t :=
  List.append_nil _

theorem reading_of_text {t : Rose Node} (ht : t.kind = .text) :
    reading options t = marks t.value.toList := by
  obtain ⟨n, children⟩ := t
  have hn : n.label = .text := ht
  rw [reading, hn]
  rfl

theorem reading_withValue {t : Rose Node} (ht : t.kind = .text) (value : String) :
    reading options (t.withValue value) = marks value.toList :=
  reading_of_text (t := t.withValue value) ht

/-- Of a comment nothing is read. -/
theorem reading_of_comment {t : Rose Node} (ht : t.kind = .comment) : reading options t = [] := by
  obtain ⟨n, children⟩ := t
  have hn : n.label = .comment := ht
  rw [reading, hn]

/-- A document inside another is not read, as there is none. -/
theorem reading_of_document {t : Rose Node} (ht : t.kind = .document) :
    reading options t = [] := by
  obtain ⟨n, children⟩ := t
  have hn : n.label = .document := ht
  rw [reading, hn]

/-- The boundaries around the content of a node, if it is a block. -/
def wrap (options : Options) (label : Label) (inside : List Mark) : List Mark :=
  if options.isBlockLabel label then none :: (inside ++ [none]) else inside

/-- An element is read as its row, with boundaries around it if it is a block. -/
theorem reading_of_element {n : Node} (hn : n.label.isElement = true) (row : Row) :
    reading options (.node n row) = wrap options n.label (readingAll options row) := by
  rw [reading, wrap, Options.isBlockLabel, hn, Bool.true_and]
  rcases hlabel : n.label with _ | ⟨tag, attributes⟩ | _ | _
  · rw [hlabel] at hn; cases hn
  · rfl
  · rw [hlabel] at hn; cases hn
  · rw [hlabel] at hn; cases hn

/-- A block is read from boundary to boundary. -/
theorem exists_reading_of_block {t : Rose Node} (ht : options.isBlockLabel t.kind = true) :
    ∃ inside, reading options t = none :: (inside ++ [none]) := by
  obtain ⟨n, row⟩ := t
  have hblock : options.isBlockLabel n.label = true := ht
  rw [reading_of_element (Bool.and_eq_true_iff.1 hblock).1, wrap, if_pos hblock]
  exact ⟨_, rfl⟩

mutual

/-- Without the boundaries, the text is read. -/
theorem eraseBoundaries_reading (options : Options) :
    ∀ r : Rose Node, eraseBoundaries (reading options r) = marks (Node.gatherText r).toList
  | .node n children => by
    rw [reading, Node.gatherText]
    rcases n.label with _ | ⟨tag, attributes⟩ | _ | _
    · rfl
    · have inside := eraseBoundaries_readingAll options children
      dsimp only
      split
      · rw [← inside]
        simp [eraseBoundaries]
      · exact inside
    · exact List.filter_eq_self.2 (by simp [marks])
    · rfl

/-- The same of a row. -/
theorem eraseBoundaries_readingAll (options : Options) :
    ∀ row : Row, eraseBoundaries (readingAll options row) = marks (Node.gatherTexts row).toList
  | [] => rfl
  | t :: ts => by
    rw [readingAll, Node.gatherTexts, String.toList_append, marks_append,
      ← eraseBoundaries_reading options t, ← eraseBoundaries_readingAll options ts]
    exact List.filter_append ..

end

mutual

/-- What is read is what shows. -/
theorem reading_contents (options : Options) :
    ∀ r : Rose Node, reading options r.contents = reading options r
  | .node n children => by
    rw [contents]
    rcases hlabel : n.label with _ | ⟨tag, attributes⟩ | _ | _
    · simp only [Label.isLeaf, Bool.false_eq_true, if_false, reading, hlabel]
    · simp only [Label.isLeaf, Bool.false_eq_true, if_false, reading, hlabel]
      rw [readingAll_contents]
    · simp only [Label.isLeaf, if_true, reading, hlabel]
    · simp only [Label.isLeaf, if_true, reading, hlabel]

/-- Of the links nothing is read. -/
theorem readingAll_contents (options : Options) :
    ∀ row : Row, readingAll options (contentsAll row) = readingAll options row
  | [] => rfl
  | t :: ts => by
    rw [contentsAll, readingAll, readingAll, reading_contents options t,
      readingAll_contents options ts]

end

end Rose

/-! ## White space made one -/

/-- To collapse white space changes no word: where one is taken out, another stays beside it. The
second half is what the induction needs after white space has been met. -/
theorem sameWords_collapseFrom (s : List Char) :
    SameWords (marks (collapseFrom false s)) (marks s) ∧
      SameWords (some ' ' :: marks (collapseFrom true s)) (some ' ' :: marks s) := by
  have space : Mark.isBreak (some ' ') = true := by decide
  induction s with
  | nil => exact ⟨.refl _, .refl _⟩
  | cons c s ih =>
    obtain ⟨apart, after⟩ := ih
    cases hc : isCollapsible c with
    | true =>
      have hbreak : Mark.isBreak (some c) = true := isWhitespace_of_isCollapsible hc
      have one : SameWords [some ' '] [some c] :=
        .breaks (by simp [space]) (by simp) (by simp [hbreak]) (by simp)
      have two : SameWords [some ' '] [some ' ', some c] :=
        (SameWords.absorb_right space (by simp [hbreak])).symm
      rw [collapseFrom, if_pos hc, collapseFrom, if_pos hc]
      exact ⟨after.trans (one.append (.refl (marks s))),
        after.trans (two.append (.refl (marks s)))⟩
    | false =>
      rw [collapseFrom, if_neg (by simp [hc]), collapseFrom, if_neg (by simp [hc])]
      exact ⟨.cons _ apart, .cons _ (.cons _ apart)⟩

namespace Row

open Rose (reading readingAll reading_of_text readingAll_append readingAll_singleton)

/-- Each text of the row has a character. -/
def Filled (row : Row) : Prop :=
  ∀ t ∈ row, t.kind = .text → t.value ≠ ""

/-- A row without its first tree is filled if it was before. -/
theorem Filled.tail {t : Rose Node} {row : Row} (h : Filled (t :: row)) : Filled row :=
  fun u hu => h u (List.mem_cons_of_mem t hu)

/-- A tree that is no empty text can be put in front. -/
theorem Filled.cons {t : Rose Node} {row : Row} (ht : t.kind = .text → t.value ≠ "")
    (h : Filled row) : Filled (t :: row) := by
  intro u hu
  rcases List.mem_cons.1 hu with rfl | hu
  · exact ht
  · exact h u hu

/-! ## Joining -/

/-- Whether texts are one or two, they are read one after the other. -/
theorem readingAll_consText (t : Rose Node) (row : Row) :
    readingAll options (consText t row) = reading options t ++ readingAll options row := by
  cases row with
  | nil => rfl
  | cons u us =>
    rw [consText]
    split
    · rename_i htexts
      rw [readingAll, readingAll, reading_of_text htexts.1, reading_of_text htexts.2,
        Rose.reading_withValue htexts.1, String.toList_append, marks_append, List.append_assoc]
    · rfl

/-- To join texts changes nothing of what is read. -/
theorem readingAll_joinTexts (row : Row) :
    readingAll options (joinTexts row) = readingAll options row := by
  induction row with
  | nil => rfl
  | cons t ts ih => rw [joinTexts_cons, readingAll_consText, ih, readingAll]

/-- A text becomes no emptier by being joined to another. -/
theorem Filled.consText {t : Rose Node} {row : Row} (ht : t.kind = .text → t.value ≠ "")
    (h : Filled row) : Filled (consText t row) := by
  cases row with
  | nil => exact .cons ht h
  | cons u us =>
    rw [Row.consText]
    split
    · rename_i htexts
      refine .cons (fun _ => ?_) h.tail
      rw [Rose.value_withValue]
      exact fun hnil => ht htexts.1 (String.append_eq_empty_iff.1 hnil).1
    · exact .cons ht h

/-- Where no text is empty, none is so when texts are joined. -/
theorem Filled.joinTexts {row : Row} (h : Filled row) : Filled (joinTexts row) := by
  induction row with
  | nil => exact h
  | cons t ts ih =>
    rw [joinTexts_cons]
    exact .consText (h t List.mem_cons_self) (ih h.tail)

/-- Texts may be joined before the rows below are settled or after that. -/
theorem joinTexts_map_settled (row : Row) :
    joinTexts (row.map (Rose.settled options)) = (joinTexts row).map (Rose.settled options) := by
  induction row with
  | nil => rfl
  | cons t ts ih =>
    rw [List.map_cons, joinTexts_cons, joinTexts_cons, ih]
    cases joinTexts ts with
    | nil => rfl
    | cons u us =>
      by_cases htexts : t.kind = .text ∧ u.kind = .text
      · have settled {r : Rose Node} (hr : r.kind = .text) : r.settled options = r :=
          Rose.settled_of_leaf (by rw [hr]; rfl)
        rw [List.map_cons, settled htexts.1, settled htexts.2, Row.consText, if_pos htexts,
          Row.consText, if_pos htexts, List.map_cons, Rose.settled_withValue htexts.1]
      · rw [List.map_cons, Row.consText, if_neg (by simpa using htexts), Row.consText,
          if_neg htexts]
        rfl

/-! ## Trimming -/

/-- A text that would be trimmed to nothing is taken out, so none is left empty. -/
theorem Filled.trimFirst {trim : List Char → List Char} {row : Row} (h : Filled row) :
    Filled (trimFirst trim row) := by
  induction row with
  | nil => exact h
  | cons t ts ih =>
    rw [Row.trimFirst]
    split
    · split
      · exact ih h.tail
      · rename_i hne
        refine .cons (fun _ => ?_) h.tail
        rw [Rose.value_withValue]
        simpa using hne
    · exact h

/-- The same at both ends. -/
theorem Filled.trimEnds {row : Row} (h : Filled row) : Filled (trimEnd (trimStart row)) := by
  have front : Filled (trimStart row).reverse :=
    fun u hu => Filled.trimFirst h u (List.mem_reverse.1 hu)
  exact fun u hu => Filled.trimFirst front u (List.mem_reverse.1 hu)

/-- Past a boundary, white space does not matter. -/
theorem sameWords_trimStart (row : Row) :
    SameWords (none :: readingAll options (trimStart row)) (none :: readingAll options row) := by
  have trimmed (s : List Char) :
      SameWords (none :: marks (trimStartWhile isCollapsible s)) (none :: marks s) := by
    conv_rhs => rw [← List.takeWhile_append_dropWhile (p := isCollapsible) (l := s), marks_append]
    have white : ∀ c ∈ s.takeWhile isCollapsible, isWhitespace c = true := fun c hc =>
      isWhitespace_of_isCollapsible (List.all_eq_true.1 (List.all_takeWhile ..) c hc)
    -- white space after the boundary is as good as the boundary alone
    have one : SameWords (none :: marks (s.takeWhile isCollapsible)) [none] :=
      .absorb_right rfl fun _ => isBreak_of_mem_marks white
    exact (one.append (.refl _)).symm
  rw [trimStart]
  induction row with
  | nil => exact .refl _
  | cons t ts ih =>
    rw [trimFirst]
    split
    · rename_i htext
      have first := (trimmed t.value.toList).append (.refl (readingAll options ts))
      rw [readingAll, reading_of_text htext]
      split
      · rename_i hnil
        rw [List.isEmpty_iff.1 hnil] at first
        exact ih.trans first
      · rw [readingAll, Rose.reading_withValue htext, String.toList_ofList]
        exact first
    · exact .refl _

/-- Before a boundary, it does not matter either. -/
theorem sameWords_trimEnd (row : Row) :
    SameWords (readingAll options (trimEnd row) ++ [none]) (readingAll options row ++ [none]) := by
  have trimmed (s : List Char) :
      SameWords (marks (trimEndWhile isCollapsible s) ++ [none]) (marks s ++ [none]) := by
    conv_rhs => rw [← trimEndWhile_append isCollapsible s, marks_append, List.append_assoc]
    have white : ∀ c ∈ (s.reverse.takeWhile isCollapsible).reverse, isWhitespace c = true :=
      fun c hc => isWhitespace_of_isCollapsible
        (List.all_eq_true.1 (List.all_takeWhile ..) c (List.mem_reverse.1 hc))
    exact (SameWords.refl _).append (.symm (.absorb_left rfl fun _ => isBreak_of_mem_marks white))
  -- from the back, since trimming goes on to the text before when one is blank
  have back (row : Row) : SameWords
      (readingAll options (trimFirst (trimEndWhile isCollapsible) row).reverse ++ [none])
      (readingAll options row.reverse ++ [none]) := by
    induction row with
    | nil => exact .refl _
    | cons t ts ih =>
      rw [trimFirst]
      split
      · rename_i htext
        have last := (SameWords.refl (readingAll options ts.reverse)).append
          (trimmed t.value.toList)
        rw [List.reverse_cons, readingAll_append, readingAll_singleton, reading_of_text htext,
          List.append_assoc]
        split
        · rename_i hnil
          rw [List.isEmpty_iff.1 hnil] at last
          exact ih.trans last
        · rw [List.reverse_cons, readingAll_append, readingAll_singleton,
            Rose.reading_withValue htext, String.toList_ofList, List.append_assoc]
          exact last
      · exact .refl _
  have whole := back row.reverse
  rwa [List.reverse_reverse] at whole

/-! ## Settling -/

/-- The boundary that a sibling of this kind ends with. -/
def edge (options : Options) (before : Option Label) : List Mark :=
  if before.any options.isBlockLabel then [none] else []

/-- The boundary at the end of a block may be counted twice. -/
theorem sameWords_edge (options : Options) (t : Rose Node) :
    SameWords (reading options t ++ edge options (some t.kind)) (reading options t) := by
  rw [edge, Option.any_some]
  split
  · rename_i hblock
    obtain ⟨inside, hinside⟩ := Rose.exists_reading_of_block hblock
    have one : SameWords [none, none] [none] := .absorb_right rfl (by simp [Mark.isBreak])
    rw [hinside, List.cons_append, List.append_assoc]
    exact .cons none ((SameWords.refl inside).append one)
  · rw [List.append_nil]
    exact .refl _

/-- What becomes of the text between two siblings has the words of the text, and none of them
touches those around it. -/
theorem sameWords_settleText (options : Options) (before : Option Label) {after : Option Label}
    {value : String} (hne : value ≠ "") (rest : List Mark)
    (hrest : after.any options.isBlockLabel = true → rest.head? = some none) :
    SameWords
      (edge options before ++
        ((settleText (besideBlock options before after) value).elim [] (marks ·.toList) ++ rest))
      (edge options before ++ (marks value.toList ++ rest)) := by
  rw [settleText]
  split
  · rename_i hall
    have white : ∀ c ∈ value.toList, isWhitespace c = true := fun c hc =>
      isWhitespace_of_isCollapsible (List.all_eq_true.1 hall c hc)
    have breaks : ∀ b ∈ marks value.toList, b.isBreak = true := fun _ => isBreak_of_mem_marks white
    split
    · rename_i hbeside
      rw [Option.elim_none, List.nil_append]
      rcases Bool.or_eq_true_iff.1 hbeside with hbefore | hafter
      · -- the boundary before the text stays
        rw [edge, if_pos hbefore, ← List.append_assoc]
        exact .append (.symm (.absorb_right rfl breaks)) (.refl rest)
      · -- the boundary after it does
        obtain ⟨rest', rfl⟩ : ∃ rest', rest = none :: rest' := by
          cases rest with
          | nil => cases hrest hafter
          | cons b rest' => exact ⟨rest', by rw [Option.some.inj (hrest hafter)]⟩
        have one := (SameWords.absorb_left (b := none) rfl breaks).append (.refl rest')
        rw [List.append_assoc, List.singleton_append] at one
        exact .append (.refl _) one.symm
    · refine .append (.refl _) (.append ?_ (.refl rest))
      have space : " ".toList.all isWhitespace = true := by decide
      exact sameWords_of_white (List.all_eq_true.1 space) (by decide) white
        (mt String.toList_eq_nil_iff.1 hne)
  · rw [Option.elim_some, String.toList_ofList]
    exact .append (.refl _) (.append (sameWords_collapseFrom _).1 (.refl rest))

/-- A row that begins with a block is read from a boundary on. -/
theorem head?_readingAll_of_block {row : Row}
    (h : (row.head?.map Rose.kind).any options.isBlockLabel = true) :
    (readingAll options row).head? = some none := by
  cases row with
  | nil => cases h
  | cons t ts =>
    obtain ⟨inside, hinside⟩ := Rose.exists_reading_of_block (t := t) h
    rw [readingAll, hinside]
    rfl

/-- All but the texts whose white space is looked at stay as they are, or are comments. -/
theorem cases_settleOne_of_not {t : Rose Node}
    (h : ¬ (t.kind = .text ∧ options.isPreformattedLabel parent = false))
    (before after : Option Label) :
    settleOne options parent before after t = some t ∨
      (settleOne options parent before after t = none ∧ t.kind = .comment) := by
  rw [settleOne]
  cases hkind : t.kind <;> simp_all

/-- No sibling that goes takes a boundary with it. -/
theorem sameWords_settleFrom (options : Options) (parent : Label) {row : Row} :
    ∀ before, Filled row → SameWords
      (edge options before ++ readingAll options (settleFrom options parent before row))
      (edge options before ++ readingAll options row) := by
  induction row with
  | nil => exact fun _ _ => .refl _
  | cons t ts ih =>
    intro before filled
    have rest := fun before => ih before filled.tail
    -- a sibling that stays leaves its edge to those that follow
    have stays (u : Rose Node) (hu : u.kind = t.kind) : SameWords
        (readingAll options (u :: settleFrom options parent (some t.kind) ts))
        (reading options u ++ readingAll options ts) := by
      have last := (sameWords_edge options u).append (.refl (readingAll options ts))
      have first := (sameWords_edge options u).append
        (.refl (readingAll options (settleFrom options parent (some t.kind) ts)))
      rw [List.append_assoc] at first last
      rw [hu] at first last
      exact first.symm.trans (((SameWords.refl _).append (rest (some t.kind))).trans last)
    rw [settleFrom]
    by_cases htext : t.kind = .text ∧ options.isPreformattedLabel parent = false
    · obtain ⟨htext, hparent⟩ := htext
      have settles := sameWords_settleText options before
        (filled t List.mem_cons_self htext) (readingAll options ts) head?_readingAll_of_block
      rw [settleOne_of_text htext, if_neg (by simp [hparent]), readingAll, reading_of_text htext]
      rcases hsettle : settleText (besideBlock options before (ts.head?.map Rose.kind)) t.value
        with _ | value
      · rw [hsettle] at settles
        exact (rest before).trans settles
      · rw [hsettle] at settles
        refine SameWords.trans (.append (.refl _) (stays (t.withValue value) rfl)) ?_
        rw [Rose.reading_withValue htext]
        exact settles
    · rcases cases_settleOne_of_not htext before (ts.head?.map Rose.kind) with hone | ⟨hone, hnil⟩
      · rw [hone]
        exact .append (.refl _) (stays t rfl)
      · rw [hone, readingAll, Rose.reading_of_comment hnil]
        exact rest before

/-! ## All that happens to a row -/

/-- What happens to a row that is not trimmed leaves its words as they are. -/
theorem sameWords_settle {row : Row} (filled : Filled row)
    (hparent : options.isTrimmedLabel parent = false) :
    SameWords (readingAll options (settle options parent row)) (readingAll options row) := by
  have settled := sameWords_settleFrom options parent none filled
  rw [edge, Option.any_none, if_neg Bool.false_ne_true, List.nil_append, List.nil_append]
    at settled
  rw [settle, hparent, if_neg Bool.false_ne_true]
  exact settled

/-- Between boundaries the words of every row are left as they are. -/
theorem sameWords_settle_between {row : Row} (filled : Filled row) :
    SameWords (none :: (readingAll options (settle options parent row) ++ [none]))
      (none :: (readingAll options row ++ [none])) := by
  cases hparent : options.isTrimmedLabel parent with
  | false => exact .cons none ((sameWords_settle filled hparent).append (.refl [none]))
  | true =>
    have settled := sameWords_settleFrom options parent none
      filled.trimEnds
    rw [edge, Option.any_none, if_neg Bool.false_ne_true, List.nil_append, List.nil_append]
      at settled
    rw [settle, hparent, if_pos rfl]
    refine SameWords.trans (.cons none (settled.append (.refl [none]))) ?_
    refine SameWords.trans (.cons none (sameWords_trimEnd (trimStart row))) ?_
    exact (sameWords_trimStart row).append (.refl [none])

end Row

/-! ## The whole document -/

namespace Rose

open Row (Filled)

/-- A block is trimmed, or its white space is kept. -/
theorem isTrimmedLabel_of_not_block {label : Label} (helement : label.isElement = true)
    (h : options.isBlockLabel label = false) : options.isTrimmedLabel label = false := by
  rw [Options.isBlockLabel, helement, Bool.true_and] at h
  cases label <;> simp_all [Label.isElement, Label.name, Options.isTrimmedLabel]

/-- Inside boundaries or not, what has the same words still has. -/
theorem sameWords_wrap {label : Label} {l l' : List Mark} (h : SameWords l l') :
    SameWords (wrap options label l) (wrap options label l') := by
  rw [wrap, wrap]
  split
  · exact .cons none (h.append (.refl [none]))
  · exact h

/-- **One row.** To settle the row of an element changes no word that is read of it. In a block,
the boundaries around it stand in for the white space that is trimmed. -/
theorem sameWords_wrap_settle {label : Label} (helement : label.isElement = true) {row : Row}
    (filled : Filled row) :
    SameWords (wrap options label (readingAll options (Row.settle options label row)))
      (wrap options label (readingAll options row)) := by
  rw [wrap, wrap]
  split
  · exact Row.sameWords_settle_between filled
  · rename_i hblock
    refine Row.sameWords_settle filled (isTrimmedLabel_of_not_block helement ?_)
    simpa using hblock

@[simp] theorem kind_normalized (r : Rose Node) : (r.normalized options).kind = r.kind := by
  rw [normalized, kind_settled, kind_merged]

/-- A text by itself is not changed; that is up to its row. -/
theorem value_normalized {r : Rose Node} (h : r.kind = .text) :
    (r.normalized options).value = r.value := by
  rw [normalized, settled_of_leaf (by rw [kind_merged, h]; rfl), Row.value_merged]

/-- What is no element is read as before, since nothing below it is read. -/
theorem reading_normalized_of_not_element {r : Rose Node} (hr : r.kind.isElement = false) :
    reading options (r.normalized options) = reading options r := by
  rcases hkind : r.kind with _ | ⟨tag, attributes⟩ | _ | _
  · rw [reading_of_document ((kind_normalized r).trans hkind), reading_of_document hkind]
  · rw [hkind] at hr
    cases hr
  · rw [reading_of_text ((kind_normalized r).trans hkind), reading_of_text hkind,
      value_normalized hkind]
  · rw [reading_of_comment ((kind_normalized r).trans hkind), reading_of_comment hkind]

end Rose

namespace Row

open Rose (reading readingAll reading_of_comment)

/-- What normalization makes of a row is settled once all that is below is normalized. -/
theorem normalized_eq (row : Row) :
    row.normalized options parent = settle options parent
      (joinTexts ((row.filter fun t => t.kind ≠ .comment).map (Rose.normalized options))) := by
  rw [normalized, Rose.settledAll_eq_map, ← joinTexts_map_settled, Rose.mergedAll_eq, List.map_map]
  rfl

/-- The row before it is settled has the words of the row, if each tree in it has. -/
theorem sameWords_joined {row : Row}
    (ih : ∀ t ∈ row, SameWords (reading options (t.normalized options)) (reading options t)) :
    SameWords (readingAll options (joinTexts
        ((row.filter fun t => t.kind ≠ .comment).map (Rose.normalized options))))
      (readingAll options row) := by
  rw [readingAll_joinTexts]
  induction row with
  | nil => exact .refl _
  | cons t ts ihts =>
    have rest := ihts fun u hu => ih u (List.mem_cons_of_mem t hu)
    by_cases ht : t.kind = .comment
    · rw [List.filter_cons_of_neg (by simp [ht]), readingAll, reading_of_comment ht]
      exact rest
    · rw [List.filter_cons_of_pos (by simp [ht]), List.map_cons, readingAll, readingAll]
      exact .append (ih t List.mem_cons_self) rest

/-- The row that the first pass leaves is filled if the row was. -/
theorem Filled.joined {row : Row} (h : Filled row) :
    Filled (Row.joinTexts
      ((row.filter fun t => t.kind ≠ .comment).map (Rose.normalized options))) := by
  refine Filled.joinTexts fun u hu htext => ?_
  obtain ⟨t, ht, rfl⟩ := List.mem_map.1 hu
  rw [Rose.kind_normalized] at htext
  rw [Rose.value_normalized htext]
  exact h t (List.mem_of_mem_filter ht) htext

end Row

namespace Rose

/-- **A document is read the same after normalization**, wherever it stands. By induction on the
document: at an element the row is settled within the boundaries of the element, and each child in
it is read the same. -/
theorem sameWords_reading_normalized {r : Rose Node} (h : Everywhere (fun _ row => row.Filled) r) :
    SameWords (reading options (r.normalized options)) (reading options r) := by
  induction h with
  | @node n row here below ih =>
    cases hn : n.label.isElement with
    | false =>
      rw [reading_normalized_of_not_element (r := .node n row) hn]
      exact .refl _
    | true =>
      have hleaf := Label.isLeaf_of_isElement hn
      rw [normalized_of_inner hleaf, reading_of_element hn, reading_of_element hn,
        Row.normalized_eq]
      refine (sameWords_wrap_settle hn (Row.Filled.joined (here hleaf))).trans ?_
      exact sameWords_wrap (Row.sameWords_joined (ih hleaf))

/-- Below the root there is nothing outside of the row that could join two words. -/
theorem words_readingAll_normalized {row : Row} (filled : row.Filled)
    (below : ∀ t ∈ row, Everywhere (fun _ row => row.Filled) t) (parent : Label) :
    words (readingAll options (row.normalized options parent)) =
      words (readingAll options row) := by
  have between (l : List Mark) : words (none :: (l ++ [none])) = words l := by
    rw [words_cons_of_break _ rfl, words_append_of_breaks_right l (by simp [Mark.isBreak])]
  rw [Row.normalized_eq, ← between, (Row.sameWords_settle_between filled.joined).words_eq, between]
  exact (Row.sameWords_joined fun t ht => sameWords_reading_normalized (below t ht)).words_eq

end Rose

namespace Tree

open Row (Filled)

variable {t : Tree} {p : NodeId}

/-- What is read inside of a node: the characters of the texts, and the boundaries of the blocks. -/
def reading (t : Tree) (options : Options) (p : NodeId) : List Mark :=
  Rose.readingAll options (t.markup p).children

/-- None of the texts that show is empty. -/
def NoEmptyText (t : Tree) : Prop :=
  ∀ p, t.Shown p → ∀ x ∈ t.children p, t.label x = .text → t.value x ≠ ""

/-- The nodes of the arena are all that have to be looked at. -/
theorem noEmptyText_of_forall_lt (h : t.IsForest)
    (filled : ∀ i < t.size, t.label ⟨i⟩ = .text → t.value ⟨i⟩ ≠ "") : t.NoEmptyText :=
  fun _ _ x hx => filled x.index (h.child_lt hx)

/-- An element below a node that is shown is shown. -/
theorem Shown.of_child (h : t.WellFormed) {x : NodeId} (hp : t.Shown p) (hx : x ∈ t.children p)
    (helement : t.isElement x = true) : t.Shown x := by
  have hmem : x ∈ t.elementChildren p := List.mem_filter.2 ⟨hx, helement⟩
  rcases hp with rfl | hp
  · exact Or.inr (reaches_of_mem h.forest hmem)
  · exact Or.inr (hp.step h.forest hmem)

/-- What is below a node that is shown is in the document. -/
theorem Shown.below_of_mem (h : t.WellFormed) {x : NodeId} (hp : t.Shown p)
    (hx : x ∈ t.children p) : t.Below root x := by
  have hbelow := h.forest.below_of_mem hx
  rcases hp with rfl | hp
  · exact hbelow
  · exact hp.below.trans hbelow

/-- A node that is no leaf is read by its row. -/
theorem reading_eq_row (h : t.IsForest) (hp : (t.label p).isLeaf = false) (options : Options) :
    t.reading options p = Rose.readingAll options (t.row p) := by
  have inside : (t.contents p).children = t.row p := by
    rw [contents_of_inner h hp]
    rfl
  rw [reading, ← inside, contents, children_contents_markup hp, Rose.readingAll_contents]

/-- The text of a node is what is read of it without the boundaries. -/
theorem eraseBoundaries_reading (h : t.IsForest) (hp : (t.label p).isLeaf = false)
    (options : Options) :
    eraseBoundaries (t.reading options p) = marks (t.textContent p).toList := by
  rw [reading_eq_row h hp, Rose.eraseBoundaries_readingAll, textContent_eq_row h hp]

/-- What holds of the row of each node that shows holds everywhere in the document. -/
theorem everywhere_contents (h : t.WellFormed) {P : Label → Row → Prop}
    (hP : ∀ p, t.Shown p → P (t.label p) (t.row p)) (p : NodeId) :
    t.Shown p → Rose.Everywhere P (t.contents p) := by
  induction p using h.forest.induction_below with
  | step p ih =>
    intro hp
    rw [contents_of_inner h.forest (h.isLeaf_eq_false hp)]
    refine .node (fun _ => hP p hp) fun _ r hr => ?_
    obtain ⟨x, hx, rfl⟩ := List.mem_map.1 hr
    cases hleaf : (t.label x).isLeaf with
    | true => exact Rose.everywhere_of_leaf (by rw [kind_contents, hleaf])
    | false =>
      refine ih x hx (hp.of_child h hx ?_)
      rcases hlabel : t.label x with _ | ⟨tag, attributes⟩ | _ | _
      · exact absurd hlabel (h.label_ne_document (hp.below_of_mem h hx))
      · rw [isElement, hlabel]
        rfl
      · rw [hlabel] at hleaf
        cases hleaf
      · rw [hlabel] at hleaf
        cases hleaf

/-- In a document without empty texts all rows are filled. -/
theorem NoEmptyText.filled (hfull : t.NoEmptyText) (hp : t.Shown p) : Filled (t.row p) := by
  intro r hr htext
  obtain ⟨x, hx, rfl⟩ := List.mem_map.1 hr
  rw [kind_contents] at htext
  rw [value_contents (by rw [htext]; rfl)]
  exact hfull p hp x hx htext

/-- **Normalization keeps the words that are read**, for all options. Blocks are boundaries for
whoever reads, so the white space that is dropped beside them parts no words. -/
theorem words_reading_normalize (h : t.WellFormed) (hfull : t.NoEmptyText) (options : Options) :
    words ((t.normalize options).reading options root) = words (t.reading options root) := by
  have shown : t.Shown root := Or.inl rfl
  have trims := trims_normalize t options
  have hroot := h.isLeaf_eq_false shown
  have filled : Rose.Everywhere (fun _ row => row.Filled) (t.contents root) :=
    everywhere_contents h (fun p hp => hfull.filled hp) root shown
  rw [reading_eq_row (trims.isForest h.forest) (by rw [trims.label_eq, hroot]),
    reading_eq_row h.forest hroot, row_normalize_of_shown h options shown]
  rw [contents_of_inner h.forest hroot] at filled
  exact Rose.words_readingAll_normalized (filled.row hroot) (fun r hr => filled.of_mem hroot hr) _

end Tree

end Tagdown
