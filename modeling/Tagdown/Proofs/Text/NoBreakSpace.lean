import Tagdown.Proofs.Normalize.Pieces
import Tagdown.Proofs.Text.Lines
import Tagdown.Proofs.Text.Words
import Mathlib.Data.List.Flatten

/-!
# No-break spaces in the final form

Normalization does not collapse a no-break space: to it the character is as solid as a letter. To
`tidy` it is white space like any other, and so it can be lost at the very end. `LosesSpace` tells
where: in the white space that ends a text, and in a blank line that is not the first line.

Both passes are compared through the characters to be kept, whichever these are. A text has those of
its lines (`filter_eq_flatMap_lines`), and what the final form leaves out is blank lines
(`filter_collapseBlankLines`) and the ends of the text.
-/

namespace Tagdown.Text

open scoped List

variable {s : List Char} {keep : Char → Bool}

/-! ## Lines -/

/-- Line by line, since the newlines between them are not kept. -/
theorem filter_eq_flatMap_lines (hnewline : keep '\n' = false) (s : List Char) :
    s.filter keep = (lines s).flatMap (List.filter keep) := by
  induction s using inductionOnLines with
  | last l hl => rw [lines_of_not_mem hl, List.flatMap_singleton]
  | line l s hl ih =>
    rw [lines_line hl, List.flatMap_cons, ← ih, List.filter_append,
      List.filter_cons_of_neg (by simp [hnewline])]

/-- After squeezing, what is kept of the lines is what those with something in them have. -/
theorem flatMap_squeezeFrom (keep : Char → Bool) (ls : List (List Char)) :
    ∀ afterBlank, (squeezeFrom afterBlank ls).flatMap (List.filter keep) =
      (ls.filter isFilled).flatMap (List.filter keep) := by
  induction ls with
  | nil => exact fun _ => rfl
  | cons l ls ih =>
    intro afterBlank
    cases hl : isFilled l with
    | true =>
      rw [squeezeFrom, if_pos hl, List.filter_cons_of_pos hl, List.flatMap_cons, List.flatMap_cons,
        ih]
    | false =>
      rw [List.filter_cons_of_neg (by simp [hl]), ← ih true]
      cases afterBlank <;> simp [squeezeFrom, hl]

/-- Without the blank lines nothing is lost just if there is nothing to be kept in these. -/
theorem flatMap_filled_eq_iff (keep : Char → Bool) (ls : List (List Char)) :
    (ls.filter isFilled).flatMap (List.filter keep) = ls.flatMap (List.filter keep) ↔
      ∀ l ∈ ls, isBlank l = true → l.filter keep = [] := by
  induction ls with
  | nil => simp
  | cons l ls ih =>
    rw [List.forall_mem_cons, ← ih, List.flatMap_cons]
    cases hl : isBlank l with
    | false =>
      rw [List.filter_cons_of_pos (by simp [isFilled, hl]), List.flatMap_cons,
        List.append_cancel_left_eq]
      simp
    | true =>
      rw [List.filter_cons_of_neg (by simp [isFilled, hl])]
      -- the other lines cannot make up for what a blank line loses
      have fewer := ((List.filter_sublist (p := isFilled) (l := ls)).flatMap
        (List.filter keep)).length_le
      constructor
      · intro heq
        have hlength := congrArg List.length heq
        rw [List.length_append] at hlength
        have hnil : l.filter keep = [] := List.length_eq_zero_iff.1 (by omega)
        rw [hnil, List.nil_append] at heq
        exact ⟨fun _ => hnil, heq⟩
      · rintro ⟨hnil, heq⟩
        rw [hnil rfl, heq, List.nil_append]

/-! ## The two passes -/

/-- Of the characters that are asked for, none comes in, and one is lost only with a blank line
that it is on. -/
theorem filter_collapseBlankLines (hnewline : keep '\n' = false)
    (ends : ∀ c ∈ s.getLast?, isWhitespace c = false) :
    (collapseBlankLines s).filter keep <+ s.filter keep ∧
      ((collapseBlankLines s).filter keep = s.filter keep ↔
        ∀ l ∈ (lines s).tail, isBlank l = true → l.filter keep = []) := by
  obtain ⟨first, later, hlines⟩ := List.exists_cons_of_ne_nil (lines_ne_nil s)
  have before : s.filter keep = first.filter keep ++ later.flatMap (List.filter keep) := by
    rw [filter_eq_flatMap_lines hnewline, hlines, List.flatMap_cons]
  have after : (collapseBlankLines s).filter keep =
      first.filter keep ++ (later.filter isFilled).flatMap (List.filter keep) := by
    rw [filter_eq_flatMap_lines hnewline, lines_collapseBlankLines ends hlines, List.flatMap_cons,
      squeezeBlanks, flatMap_squeezeFrom]
  rw [before, after, List.append_cancel_left_eq, flatMap_filled_eq_iff, hlines, List.tail_cons]
  exact ⟨(List.filter_sublist.flatMap _).append_left _, Iff.rfl⟩

/-- The white space that a text ends with. -/
def endSpace (s : List Char) : List Char :=
  (s.reverse.takeWhile isWhitespace).reverse

/-- Breaks before a text, of which nothing is kept, do not matter to the white space at its
end. -/
theorem filter_endSpace_append {breaks : List Char} (hbreaks : breaks.filter keep = [])
    (t : List Char) : (endSpace (breaks ++ t)).filter keep = (endSpace t).filter keep := by
  rw [endSpace, endSpace, List.reverse_append, List.takeWhile_append]
  split
  · rename_i hall
    obtain ⟨rest, hrest⟩ := List.takeWhile_prefix isWhitespace (l := breaks.reverse)
    have hnone : (breaks.reverse.takeWhile isWhitespace).filter keep = [] := by
      rw [← List.reverse_reverse breaks, List.filter_reverse, List.reverse_eq_nil_iff, ← hrest,
        List.filter_append] at hbreaks
      exact (List.append_eq_nil_iff.1 hbreaks).1
    rw [(List.takeWhile_prefix isWhitespace).eq_of_length hall, List.reverse_append,
      List.filter_append, List.filter_reverse, hnone, List.reverse_nil, List.nil_append]
  · rfl

/-- What is trimmed is tabs and line ends, and the white space at the end. -/
theorem filter_eq_stripped (hbreak : ∀ c, isLeadingBreak c = true → keep c = false)
    (s : List Char) :
    s.filter keep = (stripped s).filter keep ++ (endSpace s).filter keep := by
  have start := List.takeWhile_append_dropWhile (p := isLeadingBreak) (l := s)
  have hbreaks : (s.takeWhile isLeadingBreak).filter keep = [] := by
    refine List.filter_eq_nil_iff.2 fun c hc => ?_
    simp [hbreak c (List.all_eq_true.1 (List.all_takeWhile ..) c hc)]
  rw [← trimStartWhile] at start
  have finish := trimEndWhile_append isWhitespace (trimStartWhile isLeadingBreak s)
  calc s.filter keep
      = (trimStartWhile isLeadingBreak s).filter keep := by
        conv_lhs => rw [← start, List.filter_append, hbreaks, List.nil_append]
    _ = (stripped s).filter keep ++ (endSpace (trimStartWhile isLeadingBreak s)).filter keep := by
        conv_lhs => rw [← finish, List.filter_append]
        rfl
    _ = (stripped s).filter keep ++ (endSpace s).filter keep := by
        rw [← filter_endSpace_append hbreaks, start]

/-- What the final form has of the characters to be kept, and when it has them all. -/
theorem filter_tidy (hbreak : ∀ c, isLeadingBreak c = true → keep c = false) (s : List Char) :
    (tidy s).filter keep <+ s.filter keep ∧
      ((tidy s).filter keep = s.filter keep ↔ (endSpace s).filter keep = [] ∧
        ∀ l ∈ (lines (stripped s)).tail, isBlank l = true → l.filter keep = []) := by
  obtain ⟨fewer, same⟩ := filter_collapseBlankLines (s := stripped s) (hbreak '\n' rfl)
    fun _ => getLast?_trimEndWhile
  rw [tidy_eq, filter_eq_stripped hbreak s, ← same]
  refine ⟨fewer.trans (List.sublist_append_left ..), fun heq => ?_, fun ⟨hend, heq⟩ => ?_⟩
  · have hlength := congrArg List.length heq
    rw [List.length_append] at hlength
    have hend : (endSpace s).filter keep = [] :=
      List.length_eq_zero_iff.1 (by have := fewer.length_le; omega)
    exact ⟨hend, by rwa [hend, List.append_nil] at heq⟩
  · rw [hend, List.append_nil, heq]

/-! ## What is lost -/

/-- A no-break space is in the white space at the end of the text, or in a blank line after the
first one. -/
def LosesSpace (s : List Char) : Prop :=
  noBreakSpace ∈ endSpace s ∨
    ∃ l ∈ (lines (stripped s)).tail, isBlank l = true ∧ noBreakSpace ∈ l

instance (s : List Char) : Decidable (LosesSpace s) :=
  inferInstanceAs (Decidable (_ ∨ _))

/-- In white space, what is solid is a no-break space. -/
theorem filter_isSolid_eq_nil_iff (hs : isBlank s = true) :
    s.filter isSolid = [] ↔ noBreakSpace ∉ s := by
  rw [List.filter_eq_nil_iff]
  constructor
  · exact fun hnone hmem => hnone _ hmem (by decide)
  · intro hnot c hc hsolid
    refine hnot ?_
    have hwhite := List.all_eq_true.1 hs c hc
    obtain rfl : c = noBreakSpace := by simpa [isSolid, isCollapsible, hwhite] using hsolid
    exact hc

/-- It is white space by its definition. -/
theorem isBlank_endSpace (s : List Char) : isBlank (endSpace s) = true := by
  rw [endSpace, isBlank, List.all_reverse]
  exact List.all_takeWhile ..

/-- Tabs and line ends are collapsible, so nothing that is content is taken with them. -/
theorem isSolid_of_isLeadingBreak {c : Char} (hc : isLeadingBreak c = true) :
    isSolid c = false := by
  rcases isLeadingBreak_iff.1 hc with (rfl | rfl) | rfl <;> decide

/-- **What the final form keeps.** It drops nothing but white space: all other characters are there
in their order. Of the characters that normalization does not collapse, no-break spaces among them,
it has none that is new or in another place, and it has them all just if no no-break space stands at
the end of the text or in a blank line. -/
theorem filter_isSolid_tidy_eq_iff (s : List Char) :
    ((tidy s).filter fun c => !isWhitespace c) = (s.filter fun c => !isWhitespace c) ∧
    (tidy s).filter isSolid <+ s.filter isSolid ∧
    ((tidy s).filter isSolid = s.filter isSolid ↔ ¬ LosesSpace s) := by
  have nothing {t : List Char} (ht : isBlank t = true) :
      (t.filter fun c => !isWhitespace c) = [] := by
    refine List.filter_eq_nil_iff.2 fun c hc => ?_
    simp [List.all_eq_true.1 ht c hc]
  obtain ⟨fewer, same⟩ := filter_tidy (fun _ => isSolid_of_isLeadingBreak) s
  refine ⟨?_, fewer, ?_⟩
  · refine (filter_tidy (fun c hc => ?_) s).2.2 ⟨nothing (isBlank_endSpace s), fun _ _ => nothing⟩
    rcases isLeadingBreak_iff.1 hc with (rfl | rfl) | rfl <;> decide
  · rw [same, LosesSpace, not_or, filter_isSolid_eq_nil_iff (isBlank_endSpace s)]
    refine and_congr_right fun _ => ?_
    simp only [not_exists, not_and]
    refine forall_congr' fun l => forall_congr' fun _ => forall_congr' fun hl => ?_
    rw [filter_isSolid_eq_nil_iff hl]

/-- The last character is a no-break space, and it is not in the final form. -/
theorem filter_isSolid_tidy_trailing_ne :
    (tidy "a\u00a0".toList).filter isSolid ≠ "a\u00a0".toList.filter isSolid := by
  decide

/-- A no-break space before a letter stays, and so does one in the first line. -/
example : ¬ LosesSpace "\n\u00a0\n\u00a0a".toList := by
  decide

end Tagdown.Text
