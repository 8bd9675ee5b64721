import Tagdown.Text.Tidy
import Mathlib.Data.List.Basic
import Mathlib.Data.List.TakeWhile

/-!
# The final form of a text

Newlines are what `tidy` goes by, apart from the two ends of a text. So a text of one line is
trimmed and nothing else (`tidy_of_not_mem`).
-/

namespace Tagdown.Text

variable {run s : List Char}

theorem mem_trimStartWhile {p : Char → Bool} {c : Char} (h : c ∈ trimStartWhile p s) : c ∈ s :=
  (List.dropWhile_sublist p).mem h

theorem mem_trimEndWhile {p : Char → Bool} {c : Char} (h : c ∈ trimEndWhile p s) : c ∈ s :=
  List.mem_reverse.1 ((List.dropWhile_sublist p).mem (List.mem_reverse.1 h))

/-- Trimming ends at the first character that is not to go. -/
theorem trimStartWhile_cons_of_not {p : Char → Bool} {c : Char} (hc : ¬ p c = true)
    (s : List Char) : trimStartWhile p (c :: s) = c :: s :=
  List.dropWhile_cons_of_neg hc

/-- From the other side, at the last one. -/
theorem trimEndWhile_concat_of_not {p : Char → Bool} {c : Char} (hc : ¬ p c = true)
    (s : List Char) : trimEndWhile p (s ++ [c]) = s ++ [c] := by
  rw [trimEndWhile, List.reverse_concat, List.dropWhile_cons_of_neg hc, List.reverse_cons,
    List.reverse_reverse]

/-- A text with nothing to go at its end, which the empty text is too, stays as it is. -/
theorem trimEndWhile_eq_self {p : Char → Bool} (ends : ∀ c ∈ s.getLast?, p c = false) :
    trimEndWhile p s = s := by
  rcases List.eq_nil_or_concat' s with rfl | ⟨rest, c, rfl⟩
  · rfl
  · exact trimEndWhile_concat_of_not (by simp [ends c (by simp)]) rest

/-- What is all to be trimmed goes from the end. -/
theorem trimEndWhile_append_of_all {p : Char → Bool} {t : List Char} (ht : t.all p = true) :
    trimEndWhile p (s ++ t) = trimEndWhile p s := by
  rw [trimEndWhile, List.reverse_append, List.dropWhile_append_of_pos]
  · rfl
  · exact fun c hc => List.all_eq_true.1 ht c (List.mem_reverse.1 hc)

/-- A first part that goes altogether is as if it were not there. -/
theorem trimStartWhile_append_of_all {p : Char → Bool} (hs : s.all p = true) (t : List Char) :
    trimStartWhile p (s ++ t) = trimStartWhile p t :=
  List.dropWhile_append_of_pos (List.all_eq_true.1 hs)

/-- Nothing is left just if every character was to go. -/
theorem isEmpty_trimStartWhile (p : Char → Bool) (s : List Char) :
    (trimStartWhile p s).isEmpty = s.all p := by
  rw [Bool.eq_iff_iff, List.isEmpty_iff, trimStartWhile, List.dropWhile_eq_nil_iff,
    List.all_eq_true]

theorem trimStartWhile_ne_nil {p : Char → Bool} (hs : s.all p = false) :
    trimStartWhile p s ≠ [] := by
  rw [Ne, ← List.isEmpty_iff, isEmpty_trimStartWhile, hs]
  exact Bool.false_ne_true

/-- From which end it is trimmed makes no difference to that. -/
theorem isEmpty_trimEndWhile (p : Char → Bool) (s : List Char) :
    (trimEndWhile p s).isEmpty = s.all p := by
  rw [trimEndWhile, List.isEmpty_reverse, ← List.all_reverse]
  exact isEmpty_trimStartWhile p s.reverse

theorem all_trimStartWhile (p : Char → Bool) (s : List Char) :
    (trimStartWhile p s).all p = s.all p := by
  rw [trimStartWhile, ← List.takeWhile_append_dropWhile (p := p) (l := s), List.all_append,
    List.takeWhile_append_dropWhile, List.all_takeWhile, Bool.true_and]

/-- A text is blank before just if it is blank after. -/
theorem all_trimEndWhile (p : Char → Bool) (s : List Char) :
    (trimEndWhile p s).all p = s.all p := by
  rw [trimEndWhile, List.all_reverse, ← List.all_reverse (l := s)]
  exact all_trimStartWhile p s.reverse

/-- Where something is left, trimming the start does not touch the end. -/
theorem getLast?_trimStartWhile {p : Char → Bool} (hs : s.all p = false) :
    (trimStartWhile p s).getLast? = s.getLast? := by
  obtain ⟨front, hfront⟩ := List.dropWhile_suffix p (l := s)
  have hlast := List.getLast?_append_of_ne_nil front (trimStartWhile_ne_nil hs)
  rw [trimStartWhile] at hlast ⊢
  rw [← hlast, hfront]

/-- Trimming the start stops at what is not to be trimmed. -/
theorem trimStartWhile_append_of_not_all {p : Char → Bool} (hs : s.all p = false) (t : List Char) :
    trimStartWhile p (s ++ t) = trimStartWhile p s ++ t := by
  rw [trimStartWhile, List.dropWhile_append, if_neg]
  · rfl
  · rw [List.isEmpty_iff]
    exact trimStartWhile_ne_nil hs

/-- Trimming does not come past a part that has something to stay. -/
theorem trimEndWhile_append_of_not_all {p : Char → Bool} {t : List Char} (ht : t.all p = false)
    (s : List Char) : trimEndWhile p (s ++ t) = s ++ trimEndWhile p t := by
  have back := trimStartWhile_append_of_not_all (s := t.reverse) (by rwa [List.all_reverse])
    s.reverse
  rw [trimStartWhile, trimStartWhile] at back
  rw [trimEndWhile, List.reverse_append, back, List.reverse_append, List.reverse_reverse]
  rfl

/-- What was to be trimmed is not at the end. -/
theorem getLast?_trimEndWhile {p : Char → Bool} {c : Char} (h : c ∈ (trimEndWhile p s).getLast?) :
    p c = false := by
  rw [trimEndWhile, List.getLast?_reverse] at h
  have hnot := List.head?_dropWhile_not p s.reverse
  rw [Option.mem_def.1 h] at hnot
  simpa using hnot

/-- What is left after trimming has something else in it. -/
theorem not_all_trimEndWhile {p : Char → Bool} (h : trimEndWhile p s ≠ []) :
    ¬ (trimEndWhile p s).all p = true := by
  rwa [all_trimEndWhile, ← isEmpty_trimEndWhile, List.isEmpty_iff]

/-- White space within a line is kept as it is. -/
theorem tidyRun_of_not_mem (h : '\n' ∉ run) : tidyRun run = run := by
  have whole : run.takeWhile (· != '\n') = run := by
    refine List.takeWhile_eq_self_iff.2 fun c hc => bne_iff_ne.2 ?_
    rintro rfl
    exact h hc
  rw [tidyRun, whole, Nat.sub_self, Nat.zero_sub]
  rfl

/-- A single line has no blank lines, and what was read ahead comes back in its order. -/
theorem collapseBlankLinesFrom_of_not_mem (hs : '\n' ∉ s) :
    ∀ {run : List Char}, '\n' ∉ run → collapseBlankLinesFrom run s = run.reverse ++ s := by
  induction s with
  | nil =>
    intro run hrun
    rw [collapseBlankLinesFrom, tidyRun_of_not_mem (by rwa [List.mem_reverse]), List.append_nil]
  | cons c s ih =>
    intro run hrun
    obtain ⟨hc, hs⟩ := not_or.1 (mt List.mem_cons.2 hs)
    rw [collapseBlankLinesFrom]
    split
    · rw [ih hs (mt List.mem_cons.1 (not_or.2 ⟨hc, hrun⟩)), List.reverse_cons, List.append_assoc,
        List.singleton_append]
    · rw [ih hs List.not_mem_nil, tidyRun_of_not_mem (by rwa [List.mem_reverse]), List.reverse_nil,
        List.nil_append]

/-- Nor has it line feeds to be counted. -/
theorem collapseNewlinesFrom_of_not_mem (hs : '\n' ∉ s) :
    ∀ seen, collapseNewlinesFrom seen s = s := by
  induction s with
  | nil => exact fun _ => rfl
  | cons c s ih =>
    intro seen
    obtain ⟨hc, hs⟩ := not_or.1 (mt List.mem_cons.2 hs)
    rw [collapseNewlinesFrom, if_neg (Ne.symm hc), ih hs]

/-- A text of one line is only trimmed. -/
theorem tidy_of_not_mem (hs : '\n' ∉ s) :
    tidy s = trimEndWhile isWhitespace
      (trimStartWhile (fun c => c == '\t' || c == '\r' || c == '\n') s) := by
  have trimmed := fun h => hs (mem_trimStartWhile (mem_trimEndWhile (p := isWhitespace)
    (s := trimStartWhile (fun c => c == '\t' || c == '\r' || c == '\n') s) h))
  rw [tidy, collapseBlankLines, collapseBlankLinesFrom_of_not_mem trimmed List.not_mem_nil,
    List.reverse_nil, List.nil_append, collapseNewlines, collapseNewlinesFrom_of_not_mem trimmed]

end Tagdown.Text
