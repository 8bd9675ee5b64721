import Mathlib.Data.List.Infix
import Mathlib.Data.List.Basic
import Tagdown.Proofs.Text.Tidy

/-!
# Blank lines in the final form

The final form of a text changes nothing but the white space between its lines. Each run of white
space in it has at most two newlines, and two of them stand next to each other (`NewlinesMeet`).
Texts of this form with nothing to be trimmed are the ones that `tidy` leaves as they are
(`IsTidy.tidy_eq`), and what it makes of any text is one of them (`isTidy_tidy`).

What `tidy` does to lines is said through the lines with something in them, which stay as they are,
and through the blank lines between each of them and the next, of which one empty line is left if
there were any (`tidy_keeps_lines`).

A text is read run by run (`inductionOnRuns`), and what becomes of a run depends on the newlines in
it: none, one, or several (`TidiedRun`).
-/

namespace Tagdown.Text

variable {run run' r s t : List Char} {c : Char}

/-! ## Runs of white space -/

/-- A run of white space and what becomes of it, by the newlines in it. -/
inductive TidiedRun : List Char → List Char → Prop where
  | none {run : List Char} (h : '\n' ∉ run) : TidiedRun run run
  | one {before after : List Char} (hbefore : '\n' ∉ before) (hafter : '\n' ∉ after) :
    TidiedRun (before ++ '\n' :: after) (before ++ '\n' :: after)
  | several {before after : List Char} (hbefore : '\n' ∉ before) (hafter : '\n' ∉ after)
    (between : List Char) :
    TidiedRun (before ++ '\n' :: (between ++ '\n' :: after)) (before ++ '\n' :: '\n' :: after)

theorem takeWhile_append_newline {before : List Char} (h : '\n' ∉ before) (rest : List Char) :
    (before ++ '\n' :: rest).takeWhile (· != '\n') = before := by
  rw [List.takeWhile_append_of_pos, List.takeWhile_cons_of_neg (by simp), List.append_nil]
  intro c hc
  refine bne_iff_ne.2 ?_
  rintro rfl
  exact h hc

/-- A run with one newline stays, with the blanks at the end of one line and at the beginning of
the next. -/
theorem tidyRun_of_one {before after : List Char} (hbefore : '\n' ∉ before)
    (hafter : '\n' ∉ after) : tidyRun (before ++ '\n' :: after) = before ++ '\n' :: after := by
  have back : (before ++ '\n' :: after).reverse = after.reverse ++ '\n' :: before.reverse := by simp
  rw [tidyRun, back, takeWhile_append_newline hbefore,
    takeWhile_append_newline (by rwa [List.mem_reverse]), List.reverse_reverse]
  refine if_neg ?_
  simp only [List.length_append, List.length_cons]
  omega

/-- Of a run with several newlines, what is before the first and after the last stays. -/
theorem tidyRun_of_several {before after : List Char} (hbefore : '\n' ∉ before)
    (hafter : '\n' ∉ after) (between : List Char) :
    tidyRun (before ++ '\n' :: (between ++ '\n' :: after)) = before ++ '\n' :: '\n' :: after := by
  have back : (before ++ '\n' :: (between ++ '\n' :: after)).reverse =
      after.reverse ++ '\n' :: (between.reverse ++ '\n' :: before.reverse) := by simp
  rw [tidyRun, back, takeWhile_append_newline hbefore,
    takeWhile_append_newline (by rwa [List.mem_reverse]), List.reverse_reverse]
  split
  · simp
  · rename_i hfew
    simp only [List.length_append, List.length_cons] at hfew
    obtain rfl : between = [] := List.length_eq_zero_iff.1 (by omega)
    rfl

/-- The three cases are all that there are. -/
theorem tidiedRun_tidyRun (run : List Char) : TidiedRun run (tidyRun run) := by
  by_cases hrun : '\n' ∈ run
  · obtain ⟨before, rest, rfl, hbefore⟩ := List.eq_append_cons_of_mem hrun
    by_cases hrest : '\n' ∈ rest
    · obtain ⟨after, between, hsplit, hafter⟩ :=
        List.eq_append_cons_of_mem (List.mem_reverse.2 hrest)
      obtain rfl : rest = between.reverse ++ '\n' :: after.reverse := by
        rw [← List.reverse_reverse rest, hsplit]
        simp
      have hafter' : '\n' ∉ after.reverse := by rwa [List.mem_reverse]
      rw [tidyRun_of_several hbefore hafter']
      exact .several hbefore hafter' _
    · rw [tidyRun_of_one hbefore hrest]
      exact .one hbefore hrest
  · rw [tidyRun_of_not_mem hrun]
    exact .none hrun

/-- A text is read run by run: it is a run of white space, or one that is followed by a character
of another kind and the rest of the text. -/
@[elab_as_elim]
theorem inductionOnRuns {P : List Char → Prop} (blank : ∀ run, isBlank run = true → P run)
    (solid : ∀ run c rest, isBlank run = true → isWhitespace c = false → P rest →
      P (run ++ c :: rest)) (s : List Char) : P s := by
  induction hn : s.length using Nat.strong_induction_on generalizing s with
  | _ n ih =>
    have split := List.takeWhile_append_dropWhile (p := isWhitespace) (l := s)
    have hrun : isBlank (s.takeWhile isWhitespace) = true := List.all_takeWhile ..
    cases hrest : s.dropWhile isWhitespace with
    | nil =>
      rw [hrest, List.append_nil] at split
      rw [← split]
      exact blank _ hrun
    | cons c rest =>
      have hc := List.head?_dropWhile_not isWhitespace s
      rw [hrest] at hc split
      rw [← split]
      refine solid _ c rest hrun (by simpa using hc) (ih rest.length ?_ rest rfl)
      rw [← hn, ← split, List.length_append, List.length_cons]
      omega

/-- White space waits, in reverse, until it is known where it ends. -/
theorem collapseBlankLinesFrom_append (hrun : isBlank run = true) :
    ∀ pending s, collapseBlankLinesFrom pending (run ++ s) =
      collapseBlankLinesFrom (run.reverse ++ pending) s := by
  induction run with
  | nil => exact fun _ _ => rfl
  | cons c run ih =>
    intro pending s
    obtain ⟨hc, hrun⟩ := Bool.and_eq_true_iff.1 hrun
    rw [List.cons_append, collapseBlankLinesFrom, if_pos hc, ih hrun, List.reverse_cons,
      List.append_assoc, List.singleton_append]

/-- A text of white space is one run. -/
theorem collapseBlankLines_of_isBlank (hrun : isBlank run = true) :
    collapseBlankLines run = tidyRun run := by
  have := collapseBlankLinesFrom_append hrun [] []
  rwa [List.append_nil, List.append_nil, collapseBlankLinesFrom, List.reverse_reverse] at this

/-- A run ends before a character that is no white space, and nothing of it matters to what
follows. -/
theorem collapseBlankLines_append_cons (hrun : isBlank run = true) (hc : isWhitespace c = false)
    (s : List Char) :
    collapseBlankLines (run ++ c :: s) = tidyRun run ++ c :: collapseBlankLines s := by
  rw [collapseBlankLines, collapseBlankLinesFrom_append hrun, collapseBlankLinesFrom,
    if_neg (by simp [hc]), List.append_nil, List.reverse_reverse, collapseBlankLines]

/-! ## Newlines in a run

That newlines meet is a property of texts which does not speak of runs. It is what the final form
has and what it needs to stay as it is. -/

/-- Two newlines with nothing but white space between them have nothing between them. -/
def NewlinesMeet (s : List Char) : Prop :=
  ∀ w, isBlank w = true → '\n' :: (w ++ ['\n']) <:+: s → w = []

/-- Newlines that meet in a text meet in each part of it. -/
theorem NewlinesMeet.of_infix (h : NewlinesMeet s) (hr : r <:+: s) : NewlinesMeet r :=
  fun w hw hnewlines => h w hw (hnewlines.trans hr)

/-- What does not have `c` in it is on one side of it. -/
theorem infix_append_cons_of_not_mem (hc : c ∉ r) (h : r <:+: s ++ c :: t) :
    r <:+: s ∨ r <:+: t := by
  rcases List.infix_append_iff.1 h with hs | ht | ⟨left, right, rfl, hleft, hright⟩
  · exact Or.inl hs
  · rcases List.infix_cons_iff.1 ht with hfront | ht
    · cases r with
      | nil => exact Or.inl (List.nil_infix)
      | cons d r =>
        obtain ⟨rfl, -⟩ := List.cons_prefix_cons.1 hfront
        exact absurd List.mem_cons_self hc
    · exact Or.inr ht
  · cases right with
    | nil =>
      rw [List.append_nil]
      exact Or.inl hleft.isInfix
    | cons d right =>
      obtain ⟨rfl, -⟩ := List.cons_prefix_cons.1 hright
      exact absurd (List.mem_append_right left List.mem_cons_self) hc

/-- A character that is no white space keeps the newlines before it and after it apart. -/
theorem NewlinesMeet.append_cons (hs : NewlinesMeet s) (hc : isWhitespace c = false)
    (ht : NewlinesMeet t) : NewlinesMeet (s ++ c :: t) := by
  intro w hw h
  have hnot : c ∉ '\n' :: (w ++ ['\n']) := by
    intro hmem
    rw [← List.cons_append, List.mem_append, List.mem_cons, List.mem_singleton] at hmem
    rcases hmem with (rfl | hmem) | rfl
    · cases hc
    · rw [List.all_eq_true.1 hw c hmem] at hc
      cases hc
    · cases hc
  rcases infix_append_cons_of_not_mem hnot h with h | h
  · exact hs w hw h
  · exact ht w hw h

theorem count_newlines (w : List Char) : ('\n' :: (w ++ ['\n'])).count '\n' = w.count '\n' + 2 := by
  simp

/-- The lines of a text. -/
def lines (s : List Char) : List (List Char) :=
  s.splitOn '\n'

/-- Without a newline there is one line. -/
theorem lines_of_not_mem (h : '\n' ∉ s) : lines s = [s] :=
  List.splitOn_eq_singleton h

/-- A newline ends one line and begins another, and so lines can be counted on both sides of
it. -/
theorem lines_append_newline (s t : List Char) : lines (s ++ '\n' :: t) = lines s ++ lines t :=
  List.splitOn_append_cons_self ..

namespace TidiedRun

/-- In a tidied run, newlines meet. -/
theorem newlinesMeet (o : TidiedRun run run') : NewlinesMeet run' := by
  intro w _ h
  have count := h.count_le '\n'
  rw [count_newlines] at count
  cases o with
  | none hnone =>
    rw [List.count_eq_zero.2 hnone] at count
    omega
  | one hbefore hafter =>
    rw [List.count_append, List.count_cons_self, List.count_eq_zero.2 hbefore,
      List.count_eq_zero.2 hafter] at count
    omega
  | @several before after hbefore hafter between =>
    obtain ⟨p, q, hsplit⟩ := h
    -- there are no newlines but these two, so what is between them is a line
    have total := congrArg (List.count '\n') hsplit
    rw [List.count_append, List.count_append, count_newlines, List.count_append,
      List.count_cons_self, List.count_cons_self, List.count_eq_zero.2 hbefore,
      List.count_eq_zero.2 hafter] at total
    have hp : '\n' ∉ p := List.count_eq_zero.1 (by omega)
    have hw : '\n' ∉ w := List.count_eq_zero.1 (by omega)
    have hq : '\n' ∉ q := List.count_eq_zero.1 (by omega)
    have same := congrArg lines hsplit
    simp only [List.append_assoc, List.cons_append, List.nil_append] at same
    rw [lines_append_newline, lines_append_newline, lines_append_newline,
      show '\n' :: after = [] ++ '\n' :: after from rfl, lines_append_newline, lines_of_not_mem hp,
      lines_of_not_mem hw, lines_of_not_mem hq, lines_of_not_mem hbefore, lines_of_not_mem hafter,
      lines_of_not_mem List.not_mem_nil] at same
    simp only [List.cons_append, List.nil_append, List.cons.injEq] at same
    exact same.2.1

/-- A run begins as it did. -/
theorem head?_eq (o : TidiedRun run run') : run'.head? = run.head? := by
  cases o with
  | none => rfl
  | one => rfl
  | @several before => cases before <;> rfl

/-- A run ends as it did. -/
theorem getLast?_eq (o : TidiedRun run run') : run'.getLast? = run.getLast? := by
  cases o with
  | none => rfl
  | one => rfl
  | several hbefore hafter between => simp [List.getLast?_append, List.getLast?_cons]

/-- A run in which newlines meet is left as it is. -/
theorem eq_self (o : TidiedRun run run') (hrun : isBlank run = true) (h : NewlinesMeet run) :
    run' = run := by
  cases o with
  | none => rfl
  | one => rfl
  | @several before after hbefore hafter between =>
    have hbetween : isBlank between = true := by
      simp only [isBlank, List.all_append, List.all_cons, Bool.and_eq_true] at hrun ⊢
      exact hrun.2.2.1
    obtain rfl := h between hbetween ⟨before, after, by simp⟩
    rfl

end TidiedRun

/-- A run in a text in which newlines meet has two newlines at the most, next to each other. -/
theorem NewlinesMeet.count_le (h : NewlinesMeet s) (hr : r <:+: s) (hblank : isBlank r = true) :
    r.count '\n' ≤ 2 ∧ (r.count '\n' = 2 → ['\n', '\n'] <:+: r) := by
  obtain ⟨r', o⟩ : ∃ r', TidiedRun r r' := ⟨_, tidiedRun_tidyRun r⟩
  have same := o.eq_self hblank (h.of_infix hr)
  cases o with
  | none hnone =>
    rw [List.count_eq_zero.2 hnone]
    exact ⟨Nat.zero_le 2, fun htwo => absurd htwo (by decide)⟩
  | one hbefore hafter =>
    rw [List.count_append, List.count_cons_self, List.count_eq_zero.2 hbefore,
      List.count_eq_zero.2 hafter]
    exact ⟨by decide, fun htwo => absurd htwo (by decide)⟩
  | @several before after hbefore hafter between =>
    rw [← same, List.count_append, List.count_cons_self, List.count_cons_self,
      List.count_eq_zero.2 hbefore, List.count_eq_zero.2 hafter]
    exact ⟨Nat.le_refl 2, fun _ => ⟨before, after, by simp⟩⟩

/-- Of three newlines in a row, the first and the last would not meet. -/
theorem NewlinesMeet.not_three (h : NewlinesMeet s) : ¬ ['\n', '\n', '\n'] <:+: s :=
  fun hthree => List.cons_ne_nil _ _ (h ['\n'] rfl hthree)

/-! ## What is made of a whole text -/

/-- **In the final form newlines meet**, as they do in each of its runs. Between two runs there is a
character that is no white space, which keeps their newlines apart. -/
theorem newlinesMeet_collapseBlankLines (s : List Char) : NewlinesMeet (collapseBlankLines s) := by
  induction s using inductionOnRuns with
  | blank run hrun =>
    rw [collapseBlankLines_of_isBlank hrun]
    exact (tidiedRun_tidyRun run).newlinesMeet
  | solid run c rest hrun hc ih =>
    rw [collapseBlankLines_append_cons hrun hc]
    exact (tidiedRun_tidyRun run).newlinesMeet.append_cons hc ih

/-- A text in which newlines meet has no run with anything to take out. -/
theorem collapseBlankLines_eq_self (h : NewlinesMeet s) : collapseBlankLines s = s := by
  induction s using inductionOnRuns with
  | blank run hrun =>
    rw [collapseBlankLines_of_isBlank hrun]
    exact (tidiedRun_tidyRun run).eq_self hrun h
  | solid run c rest hrun hc ih =>
    have hrest : rest <:+: run ++ c :: rest := ⟨run ++ [c], [], by simp⟩
    rw [collapseBlankLines_append_cons hrun hc, ih (h.of_infix hrest)]
    rw [(tidiedRun_tidyRun run).eq_self hrun (h.of_infix (List.prefix_append ..).isInfix)]

/-- A text begins as it did, since its first run does. -/
theorem head?_collapseBlankLines (s : List Char) : (collapseBlankLines s).head? = s.head? := by
  induction s using inductionOnRuns with
  | blank run hrun =>
    rw [collapseBlankLines_of_isBlank hrun]
    exact (tidiedRun_tidyRun run).head?_eq
  | solid run c rest hrun hc ih =>
    rw [collapseBlankLines_append_cons hrun hc, List.head?_append, List.head?_append,
      (tidiedRun_tidyRun run).head?_eq, List.head?_cons, List.head?_cons]

/-- A text ends as it did, since its last run does. -/
theorem getLast?_collapseBlankLines (s : List Char) :
    (collapseBlankLines s).getLast? = s.getLast? := by
  induction s using inductionOnRuns with
  | blank run hrun =>
    rw [collapseBlankLines_of_isBlank hrun]
    exact (tidiedRun_tidyRun run).getLast?_eq
  | solid run c rest hrun hc ih =>
    rw [collapseBlankLines_append_cons hrun hc, List.getLast?_append, List.getLast?_append,
      List.getLast?_cons, List.getLast?_cons, ih, (tidiedRun_tidyRun run).getLast?_eq]

/-- Newlines that meet are two in a row at the most, and none of these is dropped. -/
theorem collapseNewlinesFrom_eq_self (s : List Char) :
    ∀ seen ≤ 2, NewlinesMeet (List.replicate seen '\n' ++ s) → collapseNewlinesFrom seen s = s := by
  induction s with
  | nil => exact fun _ _ _ => rfl
  | cons c s ih =>
    intro seen hseen h
    rw [collapseNewlinesFrom]
    split
    · rename_i hc
      subst hc
      have hfew : seen < 2 := by
        refine Nat.lt_of_le_of_ne hseen ?_
        rintro rfl
        exact h.not_three ⟨[], s, rfl⟩
      rw [if_pos hfew, ih (seen + 1) hfew]
      rwa [List.replicate_succ', List.append_assoc, List.singleton_append]
    · have hrest : s <:+: List.replicate seen '\n' ++ c :: s :=
        ⟨List.replicate seen '\n' ++ [c], [], by simp⟩
      rw [ih 0 (Nat.zero_le 2) (h.of_infix hrest)]

/-- Where newlines meet there are no three to become two. -/
theorem collapseNewlines_eq_self (h : NewlinesMeet s) : collapseNewlines s = s :=
  collapseNewlinesFrom_eq_self s 0 (Nat.zero_le 2) h

/-! ## Texts in their final form

A text is in its final form when its ends are as they should be and newlines meet. This is what
`tidy` leads to, and a text that has it is not changed. -/

/-- Tabs and line ends, which are not left before a text. -/
def isLeadingBreak (c : Char) : Bool :=
  c == '\t' || c == '\r' || c == '\n'

theorem isLeadingBreak_iff {c : Char} :
    isLeadingBreak c = true ↔ (c = '\t' ∨ c = '\r') ∨ c = '\n' := by
  rw [isLeadingBreak, Bool.or_eq_true, Bool.or_eq_true, beq_iff_eq, beq_iff_eq, beq_iff_eq]

/-- What is taken off at the start is white space. -/
theorem isLeadingBreak_of_not_isWhitespace {c : Char} (h : isWhitespace c = false) :
    isLeadingBreak c = false := by
  refine Bool.eq_false_iff.2 fun hbreak => ?_
  rcases isLeadingBreak_iff.1 hbreak with (rfl | rfl) | rfl <;> exact absurd h (by decide)

/-- The text without tabs and line ends before it and without white space after it. -/
def stripped (s : List Char) : List Char :=
  trimEndWhile isWhitespace (trimStartWhile isLeadingBreak s)

/-- Of the two steps after trimming, the first one leaves nothing to do for the second. -/
theorem tidy_eq (s : List Char) : tidy s = collapseBlankLines (stripped s) :=
  collapseNewlines_eq_self (newlinesMeet_collapseBlankLines (stripped s))

/-- Nothing is left to be done: there is nothing to be trimmed, and newlines meet. -/
structure IsTidy (s : List Char) : Prop where
  starts : ∀ c ∈ s.head?, isLeadingBreak c = false
  ends : ∀ c ∈ s.getLast?, isWhitespace c = false
  newlinesMeet : NewlinesMeet s

theorem trimEndWhile_prefix (p : Char → Bool) (s : List Char) : trimEndWhile p s <+: s := by
  rw [← List.reverse_suffix, trimEndWhile, List.reverse_reverse]
  exact List.dropWhile_suffix p

/-- What is left does not begin with what is taken off, since trimming the end takes nothing from
the start but all of it. -/
theorem head?_stripped (h : c ∈ (stripped s).head?) : isLeadingBreak c = false := by
  obtain ⟨rest, hrest⟩ := List.head?_eq_some_iff.1 h
  obtain ⟨tail, htail⟩ := trimEndWhile_prefix isWhitespace (trimStartWhile isLeadingBreak s)
  rw [← stripped, hrest] at htail
  have := List.head?_dropWhile_not isLeadingBreak s
  rw [← trimStartWhile, ← htail] at this
  simpa using this

/-- **What is made of a text is in its final form.** The ends are those of the trimmed text, since a
run that is tidied begins and ends as it did. -/
theorem isTidy_tidy (s : List Char) : IsTidy (tidy s) := by
  rw [tidy_eq]
  constructor
  · intro c hc
    rw [head?_collapseBlankLines] at hc
    exact head?_stripped hc
  · intro c hc
    rw [getLast?_collapseBlankLines] at hc
    exact getLast?_trimEndWhile hc
  · exact newlinesMeet_collapseBlankLines _

/-- There is nothing to strip from the ends of such a text. -/
theorem IsTidy.stripped_eq (h : IsTidy s) : stripped s = s := by
  have start : trimStartWhile isLeadingBreak s = s := by
    cases s with
    | nil => rfl
    | cons c s => exact trimStartWhile_cons_of_not (by simp [h.starts c rfl]) s
  rw [stripped, start, trimEndWhile_eq_self h.ends]

/-- **A text in its final form is left as it is.** With `isTidy_tidy`, to make the final form
twice is to make it once. -/
theorem IsTidy.tidy_eq (h : IsTidy s) : tidy s = s := by
  rw [Text.tidy_eq, h.stripped_eq, collapseBlankLines_eq_self h.newlinesMeet]

/-- Of white space nothing is left. -/
theorem tidy_of_isBlank (hs : isBlank s = true) : tidy s = [] := by
  have hstart : (trimStartWhile isLeadingBreak s).all isWhitespace = true :=
    List.all_eq_true.2 fun c hc => List.all_eq_true.1 hs c (mem_trimStartWhile hc)
  rw [tidy_eq, stripped, ← List.nil_append (trimStartWhile _ s), trimEndWhile_append_of_all hstart]
  rfl

/-! ## Lines

The lines of a text are split in two kinds, those with something in them and blank ones. -/

/-- There is something in the line. -/
def isFilled (line : List Char) : Bool :=
  !isBlank line

/-- The blank lines between each line with something in it and the next one. -/
def blanksBetween (ls : List (List Char)) : List (List (List Char)) :=
  (ls.splitOnP isFilled).tail.dropLast

/-- One empty line for any number of blank ones. -/
def squeeze (blanks : List (List Char)) : List (List Char) :=
  if blanks = [] then [] else [[]]

variable {l : List Char} {ls ls' blanks : List (List Char)}

/-- The lines of white space are white space. -/
theorem isBlank_of_mem_lines (hs : isBlank s = true) : ∀ l ∈ lines s, isBlank l = true := by
  induction s with
  | nil => simp [lines, isBlank]
  | cons c s ih =>
    obtain ⟨hc, hs⟩ := Bool.and_eq_true_iff.1 hs
    intro l hl
    rw [lines, List.splitOn_cons_eq_if_modifyHead] at hl
    split at hl
    · rcases List.mem_cons.1 hl with rfl | hl
      · rfl
      · exact ih hs l hl
    · obtain ⟨first, others, hsplit⟩ := List.exists_cons_of_ne_nil (List.splitOn_ne_nil '\n' s)
      rw [lines, hsplit, List.forall_mem_cons] at ih
      rw [hsplit, List.modifyHead_cons] at hl
      rcases List.mem_cons.1 hl with rfl | hl
      · exact Bool.and_eq_true_iff.2 ⟨hc, (ih hs).1⟩
      · exact (ih hs).2 l hl

theorem isFilled_append (h : isFilled s = true) (t : List Char) : isFilled (s ++ t) = true := by
  rw [isFilled, isBlank] at h ⊢
  rw [List.all_append, Bool.not_and, h, Bool.true_or]

theorem isFilled_concat (s : List Char) (hc : isWhitespace c = false) :
    isFilled (s ++ [c]) = true := by
  simp [isFilled, isBlank, hc]

/-! ## Blank lines between others

Only blank lines between two others are made fewer, one empty line for any number of them. Those
before the first and after the last line with something in it are a matter of trimming. -/

/-- What is left of blank lines is blank. -/
theorem isFilled_of_mem_squeeze (hl : l ∈ squeeze blanks) : isFilled l = false := by
  rw [squeeze] at hl
  split at hl
  · cases hl
  · rw [List.mem_singleton.1 hl]
    rfl

/-- Blank lines are passed over when the others are looked for. -/
theorem filter_leading (hblanks : ∀ b ∈ blanks, isFilled b = false) (ls : List (List Char)) :
    (blanks ++ ls).filter isFilled = ls.filter isFilled := by
  rw [List.filter_append, List.filter_eq_nil_iff.2 (by simpa using hblanks), List.nil_append]

/-- The lines begin with one that has something in it. -/
def StartsFilled (ls : List (List Char)) : Prop :=
  ∃ l rest, ls = l :: rest ∧ isFilled l = true

/-- The line that a text begins with goes on to the first newline. -/
theorem startsFilled_lines_append (hs : '\n' ∉ s) (hfilled : isFilled s = true) (t : List Char) :
    StartsFilled (lines (s ++ t)) := by
  by_cases ht : '\n' ∈ t
  · obtain ⟨before, after, rfl, hbefore⟩ := List.eq_append_cons_of_mem ht
    refine ⟨s ++ before, lines after, ?_, isFilled_append hfilled before⟩
    rw [← List.append_assoc, lines_append_newline, lines_of_not_mem (by simp [hs, hbefore]),
      List.singleton_append]
  · exact ⟨s ++ t, [], lines_of_not_mem (by simp [hs, ht]), isFilled_append hfilled t⟩

/-- Counting begins after the first line with something in it. -/
theorem blanksBetween_append_cons (hblanks : ∀ b ∈ blanks, isFilled b = false)
    (hl : isFilled l = true) (ls : List (List Char)) :
    blanksBetween (blanks ++ l :: ls) = (ls.splitOnP isFilled).dropLast := by
  rw [blanksBetween, List.splitOnP_append_cons_of_forall_mem hblanks _ hl, List.tail_cons]

theorem blanksBetween_filled (hl : isFilled l = true) (ls : List (List Char)) :
    blanksBetween (l :: ls) = (ls.splitOnP isFilled).dropLast :=
  blanksBetween_append_cons (List.forall_mem_nil _) hl ls

/-- Blank lines before all others do not count. -/
theorem blanksBetween_leading (h : StartsFilled ls) (hblanks : ∀ b ∈ blanks, isFilled b = false) :
    blanksBetween (blanks ++ ls) = blanksBetween ls := by
  obtain ⟨l, rest, rfl, hl⟩ := h
  rw [blanksBetween_append_cons hblanks hl, blanksBetween_filled hl]

/-- After a line with something in it, the blank lines up to the next one come first. -/
theorem blanksBetween_cons (h : StartsFilled ls) (hl : isFilled l = true)
    (hblanks : ∀ b ∈ blanks, isFilled b = false) :
    blanksBetween (l :: (blanks ++ ls)) = blanks :: blanksBetween ls := by
  obtain ⟨m, rest, rfl, hm⟩ := h
  rw [blanksBetween_filled hl, List.splitOnP_append_cons_of_forall_mem hblanks _ hm,
    List.dropLast_cons_of_ne_nil (List.splitOnP_ne_nil isFilled rest), blanksBetween_filled hm]

/-- The lines `ls'` are the lines `ls`, but for one empty line in the place of any number of blank
ones between two others. -/
structure Respaced (ls ls' : List (List Char)) : Prop where
  filled_eq : ls'.filter isFilled = ls.filter isFilled
  blanks_eq : blanksBetween ls' = (blanksBetween ls).map squeeze

/-- One line has no others beside it. -/
theorem respaced_singleton (l : List Char) : Respaced [l] [l] where
  filled_eq := rfl
  blanks_eq := by
    cases hl : isFilled l <;> simp [blanksBetween, List.splitOnP_cons_eq_if_modifyHead, hl]

namespace Respaced

variable (h : Respaced ls ls') (starts : StartsFilled ls) (starts' : StartsFilled ls')
include h starts starts'

/-- One more line at the front, with the blank ones that follow it. -/
theorem cons (hl : isFilled l = true) (hblanks : ∀ b ∈ blanks, isFilled b = false) :
    Respaced (l :: (blanks ++ ls)) (l :: (squeeze blanks ++ ls')) where
  filled_eq := by
    rw [List.filter_cons_of_pos hl, List.filter_cons_of_pos hl, filter_leading hblanks,
      filter_leading fun _ => isFilled_of_mem_squeeze, h.filled_eq]
  blanks_eq := by
    rw [blanksBetween_cons starts hl hblanks,
      blanksBetween_cons starts' hl fun _ => isFilled_of_mem_squeeze, h.blanks_eq, List.map_cons]

/-- Blank lines at the front may be any. -/
theorem leading {blanks' : List (List Char)} (hblanks : ∀ b ∈ blanks, isFilled b = false)
    (hblanks' : ∀ b ∈ blanks', isFilled b = false) : Respaced (blanks ++ ls) (blanks' ++ ls') where
  filled_eq := by
    rw [filter_leading hblanks, filter_leading hblanks', h.filled_eq]
  blanks_eq := by
    rw [blanksBetween_leading starts hblanks, blanksBetween_leading starts' hblanks', h.blanks_eq]

end Respaced

/-- Where a run has newlines, it ends one line and begins another, and one empty line is left of the
lines between these two if there are any. -/
theorem TidiedRun.lines_around (o : TidiedRun run run') (hrun : isBlank run = true) :
    ('\n' ∉ run ∧ run' = run) ∨
      ∃ before blanks after, (∀ b ∈ blanks, isFilled b = false) ∧ '\n' ∉ after ∧
        ∀ s t, '\n' ∉ s →
          lines (s ++ (run ++ t)) = (s ++ before) :: (blanks ++ lines (after ++ t)) ∧
          lines (s ++ (run' ++ t)) = (s ++ before) :: (squeeze blanks ++ lines (after ++ t)) := by
  -- what is before the first newline ends the line that is at hand
  have front {s before : List Char} (hs : '\n' ∉ s) (hbefore : '\n' ∉ before) (t : List Char) :
      lines (s ++ (before ++ '\n' :: t)) = (s ++ before) :: lines t := by
    rw [← List.append_assoc, lines_append_newline, lines_of_not_mem (by simp [hs, hbefore]),
      List.singleton_append]
  cases o with
  | none h => exact Or.inl ⟨h, rfl⟩
  | @one before after hbefore hafter =>
    refine Or.inr ⟨before, [], after, by simp, hafter, fun s t hs => ?_⟩
    rw [List.append_assoc, List.cons_append, front hs hbefore]
    exact ⟨rfl, rfl⟩
  | @several before after hbefore hafter between =>
    simp only [isBlank, List.all_append, List.all_cons, Bool.and_eq_true] at hrun
    have hbetween := isBlank_of_mem_lines hrun.2.2.1
    refine Or.inr ⟨before, lines between, after, fun b hb => ?_, hafter, fun s t hs => ?_⟩
    · rw [isFilled, hbetween b hb, Bool.not_true]
    · have hne : lines between ≠ [] := List.splitOn_ne_nil '\n' between
      have empty : lines ('\n' :: (after ++ t)) = [[]] ++ lines (after ++ t) :=
        lines_append_newline [] (after ++ t)
      rw [squeeze, if_neg hne, ← empty, List.append_assoc, List.cons_append, List.append_assoc,
        List.cons_append, front hs hbefore, lines_append_newline, List.append_assoc,
        List.cons_append, List.cons_append, front hs hbefore]
      exact ⟨rfl, rfl⟩

/-- White space that does not end with white space is none at all. -/
theorem eq_nil_of_ends (ends : ∀ c ∈ s.getLast?, isWhitespace c = false) (hs : isBlank s = true) :
    s = [] := by
  by_contra hne
  have hlast := ends _ (List.getLast?_eq_some_getLast hne)
  rw [List.all_eq_true.1 hs _ (List.getLast_mem hne)] at hlast
  cases hlast

/-- How a text ends is how its last part ends. -/
theorem ends_of_append_cons (ends : ∀ d ∈ (s ++ c :: t).getLast?, isWhitespace d = false) :
    ∀ d ∈ t.getLast?, isWhitespace d = false := by
  intro d hd
  refine ends d ?_
  rw [List.getLast?_append, List.getLast?_cons, Option.mem_def.1 hd]
  rfl

/-- **The lines of a text and their blank lines.** The text may follow the beginning of a line,
which is how the induction goes on from a run to the next. -/
theorem respaced_collapseBlankLines (s : List Char) :
    (∀ c ∈ s.getLast?, isWhitespace c = false) → ∀ line, '\n' ∉ line →
      Respaced (lines (line ++ s)) (lines (line ++ collapseBlankLines s)) := by
  induction s using inductionOnRuns with
  | blank run hrun =>
    intro ends line hline
    obtain rfl := eq_nil_of_ends ends hrun
    rw [collapseBlankLines_of_isBlank hrun, tidyRun_of_not_mem List.not_mem_nil, List.append_nil,
      lines_of_not_mem hline]
    exact respaced_singleton line
  | solid run c rest hrun hc ih =>
    intro ends line hline
    have hnewline : '\n' ≠ c := by
      rintro rfl
      cases hc
    have next := ih (ends_of_append_cons ends)
    rw [collapseBlankLines_append_cons hrun hc]
    rcases (tidiedRun_tidyRun run).lines_around hrun with
      ⟨hnone, hsame⟩ | ⟨before, blanks, after, hblanks, hafter, around⟩
    -- the line goes on past the run
    · have := next (line ++ run ++ [c]) (by simp [hline, hnone, hnewline])
      rw [hsame]
      simpa only [List.append_assoc, List.singleton_append] using this
    -- the line ends in the run, and the next one begins in it
    · have hafter' : '\n' ∉ after ++ [c] := by simp [hafter, hnewline]
      have starts := startsFilled_lines_append hafter' (isFilled_concat after hc)
      have inner := next (after ++ [c]) hafter'
      have starts₁ := starts rest
      have starts₂ := starts (collapseBlankLines rest)
      rw [List.append_assoc, List.singleton_append] at starts₁ starts₂
      rw [List.append_assoc, List.append_assoc, List.singleton_append] at inner
      rw [(around line (c :: rest) hline).1, (around line _ hline).2]
      cases hfilled : isFilled (line ++ before) with
      | true => exact inner.cons starts₁ starts₂ hfilled hblanks
      | false =>
        rw [← List.cons_append, ← List.cons_append]
        exact inner.leading starts₁ starts₂ (List.forall_mem_cons.2 ⟨hfilled, hblanks⟩)
          (List.forall_mem_cons.2 ⟨hfilled, fun _ => isFilled_of_mem_squeeze⟩)

/-- **The final form keeps the lines.** No white space ends it, and each run of white space in it
has two newlines at the most, next to each other. The lines with something in them are those of the
text when its ends are trimmed, with their indentation and with the white space that ends them, and
between two of them there is one empty line if there were any blank ones, and none otherwise. To
make the final form again changes nothing. -/
theorem tidy_keeps_lines (s : List Char) :
    (∀ c ∈ (tidy s).getLast?, isWhitespace c = false) ∧
    (∀ run, run <:+: tidy s → isBlank run = true →
      run.count '\n' ≤ 2 ∧ (run.count '\n' = 2 → ['\n', '\n'] <:+: run)) ∧
    ¬ ['\n', '\n', '\n'] <:+: tidy s ∧
    (lines (tidy s)).filter isFilled = (lines (stripped s)).filter isFilled ∧
    blanksBetween (lines (tidy s)) = (blanksBetween (lines (stripped s))).map squeeze ∧
    tidy (tidy s) = tidy s := by
  have final := isTidy_tidy s
  have respaced := respaced_collapseBlankLines (stripped s) (fun _ => getLast?_trimEndWhile) []
    List.not_mem_nil
  rw [List.nil_append, List.nil_append, ← tidy_eq] at respaced
  refine ⟨final.ends, fun run hrun hblank => final.newlinesMeet.count_le hrun hblank,
    final.newlinesMeet.not_three, respaced.filled_eq, respaced.blanks_eq, final.tidy_eq⟩

/-- Indentation after blank lines stays, and so do blanks before them. -/
example : tidy "\n  one \n\t\n\n    two\nthree \n ".toList = "  one \n\n    two\nthree".toList := by
  decide

end Tagdown.Text
