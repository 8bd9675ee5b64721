import Tagdown.Proofs.Normalize.Row

/-!
# The normal form of a document

In a row of a normalized document there is no comment, and no two texts stand next to each other.
Each text is what it becomes between its neighbours, and in a block the row neither begins nor ends
with white space (`Row.Normal`). The two passes lead to such rows everywhere, whatever the document
was before (`Rose.everywhere_normal`).

That one part of the normal form does not spoil another has two reasons. The kinds of the nodes that
are left do not change, so a text that stays keeps a neighbour that is no text. And a text with
anything but white space in it is never taken out.
-/

namespace Tagdown

open Text (isCollapsible)

/-! ## White space in a text

A text is solid at an end if the character there is not collapsed. Solid ends are what trimming
leaves, and neither collapsing nor settling spoils them. -/

theorem isCollapsible_space : isCollapsible ' ' = true := by decide

/-- To collapse twice is to collapse once, since a space that is left over is kept at the second
time by the state that kept it at the first. -/
theorem collapseFrom_collapseFrom (s : List Char) :
    ∀ afterSpace,
      collapseFrom afterSpace (collapseFrom afterSpace s) = collapseFrom afterSpace s := by
  induction s with
  | nil => exact fun _ => rfl
  | cons c s ih =>
    intro afterSpace
    rw [collapseFrom]
    cases hc : isCollapsible c
    · rw [if_neg Bool.false_ne_true, collapseFrom, hc, if_neg Bool.false_ne_true, ih]
    · rw [if_pos rfl]
      cases afterSpace
      · rw [if_neg Bool.false_ne_true, collapseFrom, if_pos isCollapsible_space,
          if_neg Bool.false_ne_true, ih]
      · rw [if_pos rfl, ih]

/-- To collapse white space takes out no other character. -/
theorem all_collapseFrom (s : List Char) :
    ∀ afterSpace, (collapseFrom afterSpace s).all isCollapsible = s.all isCollapsible := by
  induction s with
  | nil => exact fun _ => rfl
  | cons c s ih =>
    intro afterSpace
    rw [collapseFrom, List.all_cons]
    cases hc : isCollapsible c
    · rw [if_neg Bool.false_ne_true, List.all_cons, hc, Bool.false_and, Bool.false_and]
    · rw [if_pos rfl, Bool.true_and]
      cases afterSpace
      · rw [if_neg Bool.false_ne_true, List.all_cons, isCollapsible_space, ih, Bool.true_and]
      · rw [if_pos rfl, ih]

/-- The text begins with a character that is not collapsed. -/
def StartsSolid (value : String) : Prop :=
  ∃ c rest, value.toList = c :: rest ∧ isCollapsible c = false

/-- The text ends with a character that is not collapsed. -/
def EndsSolid (value : String) : Prop :=
  ∃ rest c, value.toList = rest ++ [c] ∧ isCollapsible c = false

/-- Such a text is not white space only, so it is never taken out of its row. -/
theorem StartsSolid.all_eq_false {value : String} (h : StartsSolid value) :
    value.toList.all isCollapsible = false := by
  obtain ⟨c, rest, hvalue, hc⟩ := h
  rw [hvalue, List.all_cons, hc, Bool.false_and]

/-- The same of a text that ends so. -/
theorem EndsSolid.all_eq_false {value : String} (h : EndsSolid value) :
    value.toList.all isCollapsible = false := by
  obtain ⟨rest, c, hvalue, hc⟩ := h
  rw [hvalue, List.all_append, List.all_cons, hc, Bool.false_and, Bool.and_false]

/-- There is nothing to trim where no white space stands. -/
theorem StartsSolid.trimStartWhile_eq {value : String} (h : StartsSolid value) :
    Text.trimStartWhile isCollapsible value.toList = value.toList := by
  obtain ⟨c, rest, hvalue, hc⟩ := h
  rw [Text.trimStartWhile, hvalue, List.dropWhile_cons, if_neg (by simp [hc])]

/-- The same at the end. -/
theorem EndsSolid.trimEndWhile_eq {value : String} (h : EndsSolid value) :
    Text.trimEndWhile isCollapsible value.toList = value.toList := by
  obtain ⟨rest, c, hvalue, hc⟩ := h
  rw [Text.trimEndWhile, hvalue, List.reverse_append, List.reverse_singleton,
    List.singleton_append, List.dropWhile_cons, if_neg (by simp [hc])]
  simp

/-- To collapse white space leaves the first character in its place, if it is none. -/
theorem StartsSolid.collapse {value : String} (h : StartsSolid value) :
    StartsSolid (String.ofList (collapseWhitespace value.toList)) := by
  obtain ⟨c, rest, hvalue, hc⟩ := h
  refine ⟨c, collapseFrom false rest, ?_, hc⟩
  rw [String.toList_ofList, hvalue, collapseWhitespace, collapseFrom, hc,
    if_neg Bool.false_ne_true]

/-- The last character stays last, whatever becomes of the white space before it. -/
theorem exists_collapseFrom_append {c : Char} (hc : isCollapsible c = false) (s : List Char) :
    ∀ afterSpace, ∃ s', collapseFrom afterSpace (s ++ [c]) = s' ++ [c] := by
  induction s with
  | nil =>
    intro afterSpace
    refine ⟨[], ?_⟩
    rw [List.nil_append, collapseFrom, hc, if_neg Bool.false_ne_true]
    rfl
  | cons d s ih =>
    intro afterSpace
    rw [List.cons_append, collapseFrom]
    split
    · obtain ⟨s', hs⟩ := ih true
      split
      · exact ⟨s', hs⟩
      · exact ⟨' ' :: s', by rw [hs, List.cons_append]⟩
    · obtain ⟨s', hs⟩ := ih false
      exact ⟨d :: s', by rw [hs, List.cons_append]⟩

/-- To collapse white space leaves the last character in its place, if it is none. -/
theorem EndsSolid.collapse {value : String} (h : EndsSolid value) :
    EndsSolid (String.ofList (collapseWhitespace value.toList)) := by
  obtain ⟨rest, c, hvalue, hc⟩ := h
  obtain ⟨rest', hrest⟩ := exists_collapseFrom_append hc rest false
  refine ⟨rest', c, ?_, hc⟩
  rw [String.toList_ofList, hvalue, collapseWhitespace, hrest]

/-- What is left after trimming the start, if anything is, begins with another character. -/
theorem startsSolid_trimStartWhile {s : List Char}
    (h : Text.trimStartWhile isCollapsible s ≠ []) :
    StartsSolid (String.ofList (Text.trimStartWhile isCollapsible s)) := by
  have hdrop : s.dropWhile isCollapsible ≠ [] := h
  refine ⟨(s.dropWhile isCollapsible).head hdrop, (s.dropWhile isCollapsible).tail, ?_, ?_⟩
  · rw [String.toList_ofList]
    exact (List.cons_head_tail hdrop).symm
  · exact List.head_dropWhile_not isCollapsible hdrop

/-- What is left after trimming the end, if anything is, ends with another character. -/
theorem endsSolid_trimEndWhile {s : List Char} (h : Text.trimEndWhile isCollapsible s ≠ []) :
    EndsSolid (String.ofList (Text.trimEndWhile isCollapsible s)) := by
  have hreverse : Text.trimStartWhile isCollapsible s.reverse ≠ [] := by
    intro hnil
    refine h ?_
    rw [Text.trimEndWhile]
    exact List.reverse_eq_nil_iff.2 hnil
  obtain ⟨c, rest, hlist, hc⟩ := startsSolid_trimStartWhile hreverse
  refine ⟨rest.reverse, c, ?_, hc⟩
  rw [String.toList_ofList] at hlist ⊢
  rw [Text.trimEndWhile, ← List.reverse_cons, ← hlist]
  rfl

/-- To trim the end does not touch the start, unless all is white space. -/
theorem startsSolid_trimEndWhile {value : String} (h : StartsSolid value) :
    Text.trimEndWhile isCollapsible value.toList ≠ [] ∧
      StartsSolid (String.ofList (Text.trimEndWhile isCollapsible value.toList)) := by
  obtain ⟨c, rest, hvalue, hc⟩ := h
  have htrim : Text.trimEndWhile isCollapsible value.toList =
      c :: Text.trimEndWhile isCollapsible rest := by
    rw [Text.trimEndWhile, hvalue, List.reverse_cons, List.dropWhile_append, Text.trimEndWhile]
    split
    · rename_i hempty
      rw [List.isEmpty_iff] at hempty
      simp [hempty, hc]
    · simp
  rw [htrim]
  exact ⟨List.cons_ne_nil _ _, c, _, String.toList_ofList, hc⟩

namespace Row

/-- A text that was settled is settled. -/
theorem settleText_settleText {adjacent : Bool} {value value' : String}
    (h : settleText adjacent value = some value') : settleText adjacent value' = some value' := by
  rw [settleText] at h
  split at h
  · split at h
    · cases h
    · rename_i hadjacent
      cases h
      rw [settleText, if_pos (by decide), if_neg hadjacent]
  · rename_i hall
    cases h
    rw [settleText, String.toList_ofList, collapseWhitespace, all_collapseFrom, if_neg hall,
      collapseWhitespace, collapseFrom_collapseFrom]

/-- A node that has been settled once stays as it is between the same neighbours. -/
theorem settleOne_settleOne {options : Options} {parent : Label} {before after : Option Label}
    {t u : Rose Node} (h : settleOne options parent before after t = some u) :
    settleOne options parent before after u = some u := by
  rcases cases_settleOne h with rfl | ⟨htext, value, rfl⟩
  · exact h
  · rw [settleOne_of_text htext] at h
    rw [settleOne_of_text (by simpa using htext)]
    split at h
    · rw [if_pos ‹_›]
    · obtain ⟨value', hvalue, heq⟩ := Option.map_eq_some_iff.1 h
      obtain rfl : value' = value := congrArg Rose.value heq
      rw [if_neg ‹_›, Rose.value_withValue, settleText_settleText hvalue]
      rfl

/-! ## The normal form of a row

The four conditions are kept apart, since they come from different steps: two of them from the
first pass, one from settling, and the one on the ends from trimming. -/

/-- Not both are texts. -/
def Apart (a b : Label) : Prop :=
  ¬ (a = .text ∧ b = .text)

/-- There is no comment in the row, and no text next to a text. -/
structure Joined (row : Row) : Prop where
  noComment : Label.comment ∉ row.map Rose.kind
  apart : (row.map Rose.kind).IsChain Apart

/-- Each text of a row after a sibling of the kind `before` is what it becomes there. -/
def SettledFrom (options : Options) (parent : Label) : Option Label → Row → Prop
  | _, [] => True
  | before, t :: ts =>
    (t.kind = .text → settleOne options parent before (ts.head?.map Rose.kind) t = some t) ∧
      SettledFrom options parent (some t.kind) ts

/-- The text that the row begins with, if it begins with one, satisfies `P`. -/
def FirstText (P : String → Prop) (row : Row) : Prop :=
  ∀ t, row.head? = some t → t.kind = .text → P t.value

/-- A row of a normalized document, below a node of the kind `parent`. -/
structure Normal (options : Options) (parent : Label) (row : Row) : Prop extends Joined row where
  settledFrom : SettledFrom options parent none row
  /-- no white space at the two ends of a block -/
  trimmed : options.isTrimmedLabel parent = true →
    FirstText StartsSolid row ∧ FirstText EndsSolid row.reverse

/-- Each text of a settled row is what it becomes between its two neighbours. -/
theorem SettledFrom.of_append {options : Options} {parent : Label} {t : Rose Node} {l r : Row}
    (ht : t.kind = .text) :
    ∀ {before : Option Label}, SettledFrom options parent before (l ++ t :: r) →
      settleOne options parent ((l.getLast?.map Rose.kind).or before) (r.head?.map Rose.kind) t =
        some t := by
  induction l with
  | nil => exact fun h => h.1 ht
  | cons u us ih =>
    intro before h
    have hlast : ((u :: us).getLast?.map Rose.kind).or before =
        (us.getLast?.map Rose.kind).or (some u.kind) := by
      rw [List.getLast?_cons]
      cases us.getLast? <;> rfl
    rw [hlast]
    exact ih h.2

/-! ## Joining

To be joined depends on the kinds in the row alone, and so it is kept by all that comes
afterwards. -/

theorem Joined.nil : Joined [] :=
  ⟨List.not_mem_nil, List.isChain_nil⟩

/-- Only the kinds matter. -/
theorem Joined.of_suffix {row row' : Row} (h : Joined row)
    (sub : row'.map Rose.kind <:+ row.map Rose.kind) : Joined row' :=
  ⟨fun hmem => h.noComment (sub.subset hmem), h.apart.suffix sub⟩

/-- A row without its first node is joined if it was before. -/
theorem Joined.tail {t : Rose Node} {row : Row} (h : Joined (t :: row)) : Joined row :=
  h.of_suffix (List.suffix_cons t.kind _)

/-- No comment is left in a joined row. -/
theorem Joined.kind_ne {t : Rose Node} {row : Row} (h : Joined row) (ht : t ∈ row) :
    t.kind ≠ .comment :=
  fun hkind => h.noComment (hkind ▸ List.mem_map_of_mem ht)

/-- To be joined does not depend on the direction, so the end of a row is the beginning of one. -/
theorem Joined.reverse {row : Row} (h : Joined row) : Joined row.reverse := by
  constructor
  · rw [List.map_reverse, List.mem_reverse]
    exact h.noComment
  · rw [List.map_reverse, List.isChain_reverse]
    exact h.apart.imp fun a b hab hba => hab ⟨hba.2, hba.1⟩

/-- After a text stands no text. -/
theorem Joined.head?_kind_ne {t u : Rose Node} {row : Row} (h : Joined (t :: row))
    (ht : t.kind = .text) (hu : row.head? = some u) : u.kind ≠ .text := by
  obtain ⟨us, rfl⟩ := List.head?_eq_some_iff.1 hu
  have hchain := h.apart
  rw [List.map_cons, List.map_cons, List.isChain_cons_cons] at hchain
  exact fun hkind => hchain.1 ⟨ht, hkind⟩

/-- Before a text stands no text. -/
theorem Joined.getLast?_kind_ne {t u : Rose Node} {l r : Row} (h : Joined (l ++ t :: r))
    (ht : t.kind = .text) (hu : l.getLast? = some u) : u.kind ≠ .text := by
  have hchain := h.apart
  rw [List.map_append, List.isChain_append] at hchain
  refine fun hkind => hchain.2.2 u.kind ?_ t.kind rfl ⟨hkind, ht⟩
  rw [List.getLast?_map, hu]
  rfl

/-- A node can be put in front unless it is a comment, or a text before a text. -/
theorem Joined.cons {t : Rose Node} {row : Row} (h : Joined row) (ht : t.kind ≠ .comment)
    (apart : ∀ u, row.head? = some u → t.kind = .text → u.kind ≠ .text) : Joined (t :: row) := by
  constructor
  · rw [List.map_cons, List.mem_cons, not_or]
    exact ⟨Ne.symm ht, h.noComment⟩
  · cases row with
    | nil => exact List.isChain_singleton _
    | cons u us =>
      rw [List.map_cons, List.map_cons, List.isChain_cons_cons]
      exact ⟨fun htexts => apart u rfl htexts.1 htexts.2, h.apart⟩

/-- A text in front of a text becomes one with it, and so the row stays joined. -/
theorem joined_consText {t : Rose Node} {row : Row} (ht : t.kind ≠ .comment) (h : Joined row) :
    Joined (consText t row) := by
  cases row with
  | nil => exact h.cons ht (by simp)
  | cons u us =>
    rw [consText]
    split
    · rename_i htexts
      -- the text that two became stands where the second of them stood
      have hkinds : (t.withValue (t.value ++ u.value) :: us).map Rose.kind =
          (u :: us).map Rose.kind := by
        rw [List.map_cons, List.map_cons, Rose.kind_withValue, htexts.1, htexts.2]
      exact h.of_suffix (hkinds ▸ List.suffix_refl _)
    · rename_i htexts
      refine h.cons ht ?_
      rintro _ ⟨⟩ htext hu
      exact htexts ⟨htext, hu⟩

/-- Texts are joined from the end, and in the end no two stand next to each other. -/
theorem joined_joinTexts {row : Row} (h : ∀ t ∈ row, t.kind ≠ .comment) :
    Joined (joinTexts row) := by
  induction row with
  | nil => exact Joined.nil
  | cons t ts ih =>
    exact joined_consText (h t List.mem_cons_self)
      (ih fun u hu => h u (List.mem_cons_of_mem t hu))

/-- A row in which no two texts meet is left as it is. -/
theorem joinTexts_eq_self {row : Row} (h : (row.map Rose.kind).IsChain Apart) :
    joinTexts row = row := by
  induction row with
  | nil => rfl
  | cons t ts ih =>
    rw [joinTexts_cons, ih h.tail]
    cases ts with
    | nil => rfl
    | cons u us =>
      rw [List.map_cons, List.map_cons, List.isChain_cons_cons] at h
      rw [consText, if_neg h.1]

/-! ## Trimming

The two ends are trimmed one after the other. `firstText_trimEnd` is the point where they could
disturb each other, when one text is both the first and the last. -/

/-- Trimming takes nodes from the beginning of a row only, and of those that stay it leaves the
kinds. -/
theorem kinds_trimFirst (trim : List Char → List Char) (row : Row) :
    (trimFirst trim row).map Rose.kind <:+ row.map Rose.kind := by
  induction row with
  | nil => exact List.suffix_refl _
  | cons t ts ih =>
    rw [trimFirst]
    split
    · split
      · exact ih.trans (List.suffix_cons t.kind _)
      · exact List.suffix_refl _
    · exact List.suffix_refl _

/-- A joined row stays joined when it is trimmed, because only a part of its kinds is left. -/
theorem Joined.trimStart {row : Row} (h : Joined row) : Joined (trimStart row) :=
  h.of_suffix (kinds_trimFirst _ row)

/-- The same at the end of the row. -/
theorem Joined.trimEnd {row : Row} (h : Joined row) : Joined (trimEnd row) :=
  (h.reverse.of_suffix (kinds_trimFirst _ row.reverse)).reverse

/-- The first text that trimming leaves is one that it has trimmed, and not to nothing. -/
theorem firstText_trimFirst {P : String → Prop} {trim : List Char → List Char}
    (hP : ∀ s, trim s ≠ [] → P (String.ofList (trim s))) (row : Row) :
    FirstText P (trimFirst trim row) := by
  induction row with
  | nil =>
    intro t ht
    cases ht
  | cons t ts ih =>
    rw [trimFirst]
    split
    · split
      · exact ih
      · rename_i hempty
        rintro _ ⟨⟩ _
        exact hP _ fun hnil => hempty (by rw [hnil]; rfl)
    · rename_i htext
      rintro _ ⟨⟩ ht
      exact absurd ht htext

/-- A row that is trimmed at the start does not begin with white space. -/
theorem firstText_trimStart (row : Row) : FirstText StartsSolid (trimStart row) :=
  firstText_trimFirst (fun _ => startsSolid_trimStartWhile) row

/-- A row that is trimmed at the end does not end with white space. -/
theorem firstText_reverse_trimEnd (row : Row) : FirstText EndsSolid (trimEnd row).reverse := by
  rw [trimEnd, List.reverse_reverse]
  exact firstText_trimFirst (fun _ => endsSolid_trimEndWhile) row.reverse

/-- What a row begins with is not lost when it is trimmed from the end. -/
theorem exists_trimFirst_append {t : Rose Node} (ht : t.kind = .text → StartsSolid t.value)
    (row : Row) :
    ∃ row' t', trimFirst (Text.trimEndWhile isCollapsible) (row ++ [t]) = row' ++ [t'] ∧
      (t'.kind = .text → StartsSolid t'.value) := by
  induction row with
  | nil =>
    rw [List.nil_append, trimFirst]
    split
    · rename_i htext
      obtain ⟨hne, hsolid⟩ := startsSolid_trimEndWhile (ht htext)
      rw [if_neg (by simpa using hne)]
      exact ⟨[], _, rfl, fun _ => hsolid⟩
    · exact ⟨[], t, rfl, ht⟩
  | cons u us ih =>
    rw [List.cons_append, trimFirst]
    split
    · split
      · exact ih
      · exact ⟨_ :: us, t, rfl, ht⟩
    · exact ⟨u :: us, t, rfl, ht⟩

/-- Trimming at the end does not spoil the start. Where the first text is also the last, what was
solid at its start is so still. -/
theorem firstText_trimEnd {row : Row} (h : FirstText StartsSolid row) :
    FirstText StartsSolid (trimEnd row) := by
  cases row with
  | nil => exact h
  | cons t ts =>
    obtain ⟨row', t', heq, ht'⟩ := exists_trimFirst_append (h t rfl) ts.reverse
    rw [trimEnd, List.reverse_cons, heq, List.reverse_append, List.reverse_singleton,
      List.singleton_append]
    rintro _ ⟨⟩
    exact ht'

/-! ## Settling

A text that is settled may go, and then its neighbours stand next to each other. Since it stood
between two nodes that are no texts, the neighbours of the texts that stay do not change in kind. -/

section Settle

variable {options : Options} {parent : Label}

/-- What is no text stays at the head of its row. -/
theorem head?_settleFrom {row : Row} {before : Option Label} (h : Joined row)
    (hhead : ∀ t, row.head? = some t → t.kind ≠ .text) :
    (settleFrom options parent before row).head? = row.head? := by
  cases row with
  | nil => rfl
  | cons t ts =>
    have hinner : t.kind.isLeaf = false := by
      have htext := hhead t rfl
      have hcomment := h.kind_ne List.mem_cons_self
      cases hkind : t.kind <;> simp_all [Label.isLeaf]
    rw [settleFrom, settleOne_of_not_leaf hinner]
    rfl

/-- Texts go when a row is settled, and between two that stay there is still what kept them
apart. -/
theorem joined_settleFrom {row : Row} :
    ∀ {before : Option Label}, Joined row → Joined (settleFrom options parent before row) := by
  induction row with
  | nil => exact fun h => h
  | cons t ts ih =>
    intro before h
    rw [settleFrom]
    split
    · rename_i t' ht'
      have hkind := kind_settleOne ht'
      refine (ih h.tail).cons (by rw [hkind]; exact h.kind_ne List.mem_cons_self) ?_
      intro u hu htext
      rw [hkind] at htext
      rw [head?_settleFrom h.tail fun v hv => h.head?_kind_ne htext hv] at hu
      exact h.head?_kind_ne htext hu
    · exact ih h.tail

/-- **Settling settles.** Each node is settled between the neighbours that the row has in the end,
not only between those that it had. The next neighbour of a text in a joined row is no text, and so
it does not go. -/
theorem settledFrom_settleFrom {row : Row} :
    ∀ {before : Option Label}, Joined row →
      SettledFrom options parent before (settleFrom options parent before row) := by
  induction row with
  | nil => exact fun _ => trivial
  | cons t ts ih =>
    intro before h
    rw [settleFrom]
    split
    · rename_i t' ht'
      have hkind := kind_settleOne ht'
      refine ⟨fun htext => ?_, ?_⟩
      -- the next neighbour is no text, so it is there still
      · rw [hkind] at htext
        rw [head?_settleFrom h.tail fun u hu => h.head?_kind_ne htext hu]
        exact settleOne_settleOne ht'
      · rw [hkind]
        exact ih h.tail
    · exact ih h.tail

/-- A text that is not white space alone stays, with its content at both ends. -/
theorem exists_settleOne (options : Options) (parent : Label) (before after : Option Label)
    {t : Rose Node} (htext : t.kind = .text)
    (hall : t.value.toList.all isCollapsible = false) :
    ∃ t', settleOne options parent before after t = some t' ∧
      (StartsSolid t.value → StartsSolid t'.value) ∧ (EndsSolid t.value → EndsSolid t'.value) := by
  rw [settleOne_of_text htext]
  split
  · exact ⟨t, rfl, id, id⟩
  · rw [settleText, if_neg (by simp [hall])]
    exact ⟨_, rfl, StartsSolid.collapse, EndsSolid.collapse⟩

/-- A first text with more than white space in it stays first, and starts as it did. -/
theorem firstText_settleFrom {row : Row} {before : Option Label} (h : Joined row)
    (hfirst : FirstText StartsSolid row) :
    FirstText StartsSolid (settleFrom options parent before row) := by
  cases row with
  | nil => exact hfirst
  | cons t ts =>
    by_cases htext : t.kind = .text
    · have hsolid := hfirst t rfl htext
      obtain ⟨t', ht', hstart, -⟩ := exists_settleOne options parent before
        (ts.head?.map Rose.kind) htext hsolid.all_eq_false
      rw [settleFrom, ht']
      rintro _ ⟨⟩ _
      exact hstart hsolid
    · intro u hu
      rw [head?_settleFrom h (by rintro _ ⟨⟩; exact htext)] at hu
      exact hfirst u hu

/-- What a row ends with stays, if it is no white space. -/
theorem exists_settleFrom_append (options : Options) (parent : Label) {t : Rose Node}
    (hcomment : t.kind ≠ .comment) (hlast : t.kind = .text → EndsSolid t.value) (row : Row) :
    ∀ before, ∃ row' t', settleFrom options parent before (row ++ [t]) = row' ++ [t'] ∧
      (t'.kind = .text → EndsSolid t'.value) := by
  induction row with
  | nil =>
    intro before
    rw [List.nil_append, settleFrom]
    by_cases htext : t.kind = .text
    -- the text ends with a solid character, so it is not dropped
    · have hsolid := hlast htext
      obtain ⟨t', ht', -, hend⟩ := exists_settleOne options parent before
        (([] : Row).head?.map Rose.kind) htext hsolid.all_eq_false
      rw [ht']
      exact ⟨[], t', rfl, fun _ => hend hsolid⟩
    · have hinner : t.kind.isLeaf = false := by
        cases hkind : t.kind <;> simp_all [Label.isLeaf]
      rw [settleOne_of_not_leaf hinner]
      exact ⟨[], t, rfl, hlast⟩
  | cons u us ih =>
    intro before
    rw [List.cons_append, settleFrom]
    split
    · rename_i u' _
      obtain ⟨row', t', heq, ht'⟩ := ih (some u.kind)
      exact ⟨u' :: row', t', by rw [heq, List.cons_append], ht'⟩
    · exact ih before

/-- A last text with more than white space in it stays last, and ends as it did. -/
theorem firstText_reverse_settleFrom {row : Row} {before : Option Label} (h : Joined row)
    (hlast : FirstText EndsSolid row.reverse) :
    FirstText EndsSolid (settleFrom options parent before row).reverse := by
  rcases List.eq_nil_or_concat row with rfl | ⟨row, t, rfl⟩
  · exact hlast
  · rw [List.concat_eq_append] at h hlast ⊢
    have hcomment : t.kind ≠ .comment := h.kind_ne (by simp)
    obtain ⟨row', t', heq, ht'⟩ := exists_settleFrom_append options parent hcomment
      (hlast t (by simp)) row before
    rw [heq, List.reverse_append, List.reverse_singleton, List.singleton_append]
    rintro _ ⟨⟩
    exact ht'

/-- **A settled row is normal**, if it was joined before. That the ends stay trimmed while texts are
settled is the point where the two parts of the pass meet. -/
theorem normal_settle {row : Row} (h : Joined row) :
    Normal options parent (settle options parent row) := by
  rw [settle]
  split
  · have trimmed : Joined (trimEnd (trimStart row)) := h.trimStart.trimEnd
    refine ⟨joined_settleFrom trimmed, settledFrom_settleFrom trimmed, fun _ => ⟨?_, ?_⟩⟩
    · exact firstText_settleFrom trimmed (firstText_trimEnd (firstText_trimStart row))
    · exact firstText_reverse_settleFrom trimmed (firstText_reverse_trimEnd (trimStart row))
  · rename_i htrim
    exact ⟨joined_settleFrom h, settledFrom_settleFrom h, fun hparent => absurd hparent htrim⟩

/-- A node that stands alone makes a normal row, unless it is a comment or a text that changes. -/
theorem normal_singleton {t : Rose Node} (hcomment : t.kind ≠ .comment)
    (settled : t.kind = .text → settleOne options parent none none t = some t)
    (solid : t.kind = .text → StartsSolid t.value ∧ EndsSolid t.value) :
    Normal options parent [t] := by
  refine ⟨⟨by simpa using hcomment.symm, .singleton _⟩, ⟨settled, trivial⟩, fun _ => ⟨?_, ?_⟩⟩
  · rintro _ ⟨⟩ htext
    exact (solid htext).1
  · rintro _ ⟨⟩ htext
    exact (solid htext).2

/-- Nothing is trimmed in an element whose white space is kept, and no text in it changes. -/
theorem normal_preformatted {parent : Label} (h : options.isPreformattedLabel parent = true)
    {t : Rose Node} (ht : t.kind ≠ .comment) : Normal options parent [t] where
  noComment := by simpa using ht.symm
  apart := .singleton _
  settledFrom := by
    refine ⟨fun htext => ?_, trivial⟩
    rw [settleOne_of_text htext, if_pos h]
  trimmed := by
    intro htrimmed
    cases parent with
    | element tag attributes =>
      rw [Options.isTrimmedLabel, Bool.and_eq_true, Bool.not_eq_true'] at htrimmed
      obtain ⟨-, hpreformatted⟩ := Bool.and_eq_true_iff.1 h
      exact absurd (hpreformatted.symm.trans htrimmed.2) (by decide)
    | _ => cases (Bool.and_eq_true_iff.1 h).1

/-- A row is normal if all texts in it are as they should be between any two neighbours. -/
theorem normal_of_solid {row : Row} (joined : Joined row)
    (solid : ∀ t ∈ row, t.kind = .text → StartsSolid t.value ∧ EndsSolid t.value ∧
      collapseWhitespace t.value.toList = t.value.toList) : Normal options parent row where
  toJoined := joined
  settledFrom := by
    have settled : ∀ t ∈ row, t.kind = .text →
        ∀ before after, settleOne options parent before after t = some t := by
      intro t ht htext before after
      obtain ⟨starts, -, collapsed⟩ := solid t ht htext
      rw [settleOne_of_text htext]
      split
      · rfl
      · rw [settleText, starts.all_eq_false, if_neg Bool.false_ne_true, collapsed,
          String.ofList_toList, Option.map_some, Rose.withValue_value]
    -- for any row of these trees, since the induction goes through its tails
    suffices ∀ row', (∀ t ∈ row', t ∈ row) →
        ∀ before, SettledFrom options parent before row' from this row (fun _ ht => ht) none
    intro row'
    induction row' with
    | nil => exact fun _ _ => trivial
    | cons t ts ih =>
      intro sub before
      obtain ⟨ht, hts⟩ := List.forall_mem_cons.1 sub
      exact ⟨fun htext => settled t ht htext _ _, ih hts _⟩
  trimmed := by
    refine fun _ => ⟨fun t ht htext => ?_, fun t ht htext => ?_⟩
    · exact (solid t (List.mem_of_head? ht) htext).1
    · exact (solid t (List.mem_reverse.1 (List.mem_of_head? ht)) htext).2.1

/-- A row of elements has nothing in it that could change. -/
theorem normal_of_elements {row : Row} (elements : ∀ t ∈ row, t.kind.isElement = true) :
    Normal options parent row := by
  have isElement_of_kind {t : Rose Node} (ht : t ∈ row) {kind : Label} (hkind : t.kind = kind) :
      kind.isElement = true := hkind ▸ elements t ht
  refine normal_of_solid ⟨?_, ?_⟩ fun t ht htext => by cases isElement_of_kind ht htext
  · rw [List.mem_map]
    rintro ⟨t, ht, hkind⟩
    cases isElement_of_kind ht hkind
  · rw [List.isChain_map]
    refine (List.pairwise_of_forall_mem_list fun t ht _ _ hkinds => ?_).isChain
    cases isElement_of_kind ht hkinds.1

/-- A single element makes a normal row, with no text that could spoil it. -/
theorem normal_element {t : Rose Node} (ht : t.kind.isElement = true) :
    Normal options parent [t] :=
  normal_of_elements (List.forall_mem_singleton.2 ht)

end Settle

end Row

/-! ## The normal form of a document

The rows of a document are brought into the normal form one by one, each independently of those
below it. `Everywhere` is the induction through the levels, stated once for any property of rows. -/

namespace Rose

/-- All rows of a document, down to its leaves, satisfy `P`. -/
inductive Everywhere (P : Label → Row → Prop) : Rose Node → Prop where
  | node {n : Node} {row : Row} (here : n.label.isLeaf = false → P n.label row)
    (below : n.label.isLeaf = false → ∀ t ∈ row, Everywhere P t) : Everywhere P (.node n row)

/-- There is no row below a leaf. -/
theorem everywhere_of_leaf {P : Label → Row → Prop} {r : Rose Node} (h : r.kind.isLeaf = true) :
    Everywhere P r := by
  obtain ⟨n, row⟩ := r
  have hleaf : n.label.isLeaf = true := h
  refine .node ?_ ?_
  all_goals
    rw [hleaf]
    exact fun hfalse => by cases hfalse

theorem everywhere_of_text {P : Label → Row → Prop} {r : Rose Node} (h : r.kind = .text) :
    Everywhere P r :=
  everywhere_of_leaf (by rw [h]; rfl)

/-- What holds everywhere holds of the row right below the node. -/
theorem Everywhere.row {P : Label → Row → Prop} {n : Node} {row : Row}
    (h : Everywhere P (.node n row)) (hn : n.label.isLeaf = false) : P n.label row := by
  cases h with
  | node here below => exact here hn

/-- What holds everywhere holds everywhere below a child. -/
theorem Everywhere.of_mem {P : Label → Row → Prop} {n : Node} {row : Row}
    (h : Everywhere P (.node n row)) (hn : n.label.isLeaf = false) {t : Rose Node} (ht : t ∈ row) :
    Everywhere P t := by
  cases h with
  | node here below => exact below hn t ht

/-- A tree with a single child is normal if it is so here and below the child. -/
theorem everywhere_normal_singleton {options : Options} {n : Node} {t : Rose Node}
    (here : Row.Normal options n.label [t]) (below : Everywhere (Row.Normal options) t) :
    Everywhere (Row.Normal options) (.node n [t]) :=
  .node (fun _ => here) fun _ _ ht => List.mem_singleton.1 ht ▸ below

/-- Of a row that is merged, the comments are gone and the rest is merged one by one. -/
theorem mergedAll_eq (row : Row) :
    mergedAll row = (row.filter fun t => t.kind ≠ .comment).map merged := by
  induction row with
  | nil => rfl
  | cons t ts ih =>
    rw [mergedAll, ih]
    by_cases ht : t.kind = .comment <;> simp [ht]

mutual

/-- After the first pass, all rows are joined. -/
theorem everywhere_joined : ∀ r : Rose Node, Everywhere (fun _ row => row.Joined) r.merged
  | .node n children => by
    rw [merged]
    refine .node (fun _ => Row.joined_joinTexts fun t ht => ?_) fun _ t ht => ?_
    · rw [mergedAll_eq, List.mem_map] at ht
      obtain ⟨u, hu, rfl⟩ := ht
      rw [kind_merged]
      simpa using (List.mem_filter.1 hu).2
    · rcases Row.mem_joinTexts ht with ht | ht
      · exact everywhere_joined_of_mem children t ht
      · exact everywhere_of_text ht

theorem everywhere_joined_of_mem :
    ∀ (row : Row), ∀ t ∈ mergedAll row, Everywhere (fun _ row => row.Joined) t
  | [], t, ht => by cases ht
  | u :: us, t, ht => by
    rw [mergedAll] at ht
    split at ht
    · exact everywhere_joined_of_mem us t ht
    · rcases List.mem_cons.1 ht with rfl | ht
      · exact everywhere_joined u
      · exact everywhere_joined_of_mem us t ht

end

mutual

/-- The second pass makes all rows normal that the first has joined. -/
theorem Everywhere.settled (options : Options) :
    ∀ r : Rose Node, Everywhere (fun _ row => row.Joined) r →
      Everywhere (Row.Normal options) (r.settled options)
  | .node n children, h => by
    rw [Rose.settled]
    split
    · rename_i hleaf
      exact everywhere_of_leaf hleaf
    · rename_i hinner
      rw [Bool.not_eq_true] at hinner
      have hkinds : (settledAll options children).map kind = children.map kind := by
        rw [settledAll_eq_map, List.map_map]
        exact List.map_congr_left fun t _ => kind_settled options t
      refine .node (fun _ => Row.normal_settle ?_) fun _ t ht => ?_
      · exact (h.row hinner).of_suffix (hkinds ▸ List.suffix_refl _)
      · rcases Row.mem_settle ht with ht | ht
        · exact settledAll_of_mem options children (fun u hu => h.of_mem hinner hu) t ht
        · exact everywhere_of_text ht

theorem Everywhere.settledAll_of_mem (options : Options) :
    ∀ (row : Row), (∀ u ∈ row, Everywhere (fun _ row => row.Joined) u) →
      ∀ t ∈ settledAll options row, Everywhere (Row.Normal options) t
  | [], _, t, ht => by cases ht
  | u :: us, h, t, ht => by
    rcases List.mem_cons.1 ht with rfl | ht
    · exact Everywhere.settled options u (h u List.mem_cons_self)
    · exact Everywhere.settledAll_of_mem options us
        (fun v hv => h v (List.mem_cons_of_mem u hv)) t ht

end

/-- **The passes lead to the normal form.** The first pass joins all rows, and the second one makes
them normal. -/
theorem everywhere_normal (options : Options) (r : Rose Node) :
    Everywhere (Row.Normal options) (r.merged.settled options) :=
  (everywhere_joined r).settled options _

end Rose

/-! ## What has the normal form is left as it is

The converse: on a row in the normal form each step of the passes does nothing. -/

namespace Row

variable {options : Options} {parent : Label}

/-- Trimming changes nothing when the first text is one that its trim does not change. -/
theorem trimFirst_eq_self {P : String → Prop} {trim : List Char → List Char}
    (hP : ∀ value, P value → value.toList ≠ [] ∧ trim value.toList = value.toList) {row : Row}
    (h : FirstText P row) : trimFirst trim row = row := by
  cases row with
  | nil => rfl
  | cons t ts =>
    rw [trimFirst]
    split
    · rename_i htext
      obtain ⟨hne, htrim⟩ := hP _ (h t rfl htext)
      rw [htrim, if_neg (by simpa using hne), String.ofList_toList, Rose.withValue_value]
    · rfl

/-- There is nothing to trim from a row that does not begin with white space. -/
theorem trimStart_eq_self {row : Row} (h : FirstText StartsSolid row) : trimStart row = row := by
  refine trimFirst_eq_self (fun value hvalue => ⟨?_, hvalue.trimStartWhile_eq⟩) h
  obtain ⟨c, rest, hcons, -⟩ := hvalue
  rw [hcons]
  exact List.cons_ne_nil c rest

/-- There is nothing to trim from a row that does not end with white space. -/
theorem trimEnd_eq_self {row : Row} (h : FirstText EndsSolid row.reverse) : trimEnd row = row := by
  rw [trimEnd, trimFirst_eq_self (fun value hvalue => ⟨?_, hvalue.trimEndWhile_eq⟩) h,
    List.reverse_reverse]
  obtain ⟨rest, c, hconcat, -⟩ := hvalue
  rw [hconcat]
  exact List.append_ne_nil_of_right_ne_nil rest (List.cons_ne_nil c [])

/-- A row of settled nodes is settled already. -/
theorem settleFrom_eq_self {row : Row} :
    ∀ {before : Option Label}, Joined row → SettledFrom options parent before row →
      settleFrom options parent before row = row := by
  induction row with
  | nil => exact fun _ _ => rfl
  | cons t ts ih =>
    intro before joined h
    have here : settleOne options parent before (ts.head?.map Rose.kind) t = some t := by
      by_cases htext : t.kind = .text
      · exact h.1 htext
      · have hcomment := joined.kind_ne List.mem_cons_self
        refine settleOne_of_not_leaf ?_
        cases hkind : t.kind <;> simp_all [Label.isLeaf]
    rw [settleFrom, here]
    exact congrArg (t :: ·) (ih joined.tail h.2)

/-- **A normal row** is left as it is by all that the second pass does to a row. There is nothing to
trim at its ends, and each text is what it would become. -/
theorem Normal.settle_eq {row : Row} (h : Normal options parent row) :
    settle options parent row = row := by
  rw [settle]
  split
  · obtain ⟨hstart, hend⟩ := h.trimmed ‹_›
    rw [trimStart_eq_self hstart, trimEnd_eq_self hend, settleFrom_eq_self h.toJoined h.settledFrom]
  · exact settleFrom_eq_self h.toJoined h.settledFrom

end Row

namespace Rose

mutual

/-- **A document in its normal form is settled.** By recursion on the document, with the row below a
node after the rows below its children. -/
theorem Everywhere.settled_eq {options : Options} :
    ∀ r : Rose Node, Everywhere (Row.Normal options) r → r.settled options = r
  | .node n children, h => by
    rw [Rose.settled]
    split
    · rfl
    · rename_i hinner
      rw [Bool.not_eq_true] at hinner
      rw [Everywhere.settledAll_eq children fun t ht => h.of_mem hinner ht,
        (h.row hinner).settle_eq]

theorem Everywhere.settledAll_eq {options : Options} :
    ∀ row : Row, (∀ t ∈ row, Everywhere (Row.Normal options) t) → settledAll options row = row
  | [], _ => rfl
  | t :: ts, h => by
    rw [Rose.settledAll, Everywhere.settled_eq t (h t List.mem_cons_self),
      Everywhere.settledAll_eq ts fun u hu => h u (List.mem_cons_of_mem t hu)]

end

end Rose

end Tagdown
