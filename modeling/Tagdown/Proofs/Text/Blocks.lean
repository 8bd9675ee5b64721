import Tagdown.Proofs.Text.Lines

/-!
# Texts as blocks

A block has a blank line before it and another one after it, so there are four newlines between two
blocks in a row. Two of these are left, and none of those at the two ends, in a quotation as well as
in the final form (`collapseNewlines_trim_blocks`, `tidy_blocks`). So one empty line comes between
two blocks (`spaced`).

This goes for texts that no white space is around and that have no more than one empty line in a row
in them (`IsTight`). Together they are a text of the same kind (`isTight_spaced`), which may be a
block again.
-/

namespace Tagdown

namespace Text

variable {c d : Char} {s t : List Char} {ts : List (List Char)}

/-! ## Past a character -/

/-- Newlines are counted anew after any other character. -/
theorem collapseNewlinesFrom_append_cons (hc : c ≠ '\n') (s t : List Char) :
    ∀ seen, collapseNewlinesFrom seen (s ++ c :: t) =
      collapseNewlinesFrom seen (s ++ [c]) ++ collapseNewlinesFrom 0 t := by
  induction s with
  | nil =>
    intro seen
    rw [List.nil_append, List.nil_append, collapseNewlinesFrom, if_neg hc, collapseNewlinesFrom,
      if_neg hc]
    rfl
  | cons d s ih =>
    intro seen
    rw [List.cons_append, List.cons_append, collapseNewlinesFrom, collapseNewlinesFrom]
    split
    · split
      · rw [ih, List.cons_append]
      · exact ih _
    · rw [ih, List.cons_append]

/-- What comes after a character that is not white space begins with a run of its own. -/
theorem collapseBlankLines_append_cons_of_not (hc : isWhitespace c = false) (s t : List Char) :
    collapseBlankLines (s ++ c :: t) = collapseBlankLines (s ++ [c]) ++ collapseBlankLines t := by
  induction s using inductionOnRuns with
  | blank run hrun =>
    rw [collapseBlankLines_append_cons hrun hc, collapseBlankLines_append_cons hrun hc,
      List.append_assoc]
    rfl
  | solid run d s hrun hd ih =>
    rw [List.append_assoc, List.append_assoc, List.cons_append, List.cons_append,
      collapseBlankLines_append_cons hrun hd, collapseBlankLines_append_cons hrun hd, ih,
      List.append_assoc, List.cons_append]

/-! ## Texts without white space around them -/

/-- The text begins and ends with something else than white space. -/
structure IsFramed (s : List Char) : Prop where
  exists_cons : ∃ c rest, s = c :: rest ∧ isWhitespace c = false
  exists_concat : ∃ rest c, s = rest ++ [c] ∧ isWhitespace c = false

/-- Moreover there is no more than one empty line in a row in it. -/
structure IsTight (s : List Char) : Prop extends IsFramed s where
  newlinesMeet : NewlinesMeet s

namespace IsFramed

/-- What is put between the texts does not matter to the ends of the whole. -/
theorem intercalate (h : ∀ t ∈ ts, IsFramed t) (hne : ts ≠ []) (sep : List Char) :
    IsFramed (sep.intercalate ts) := by
  induction ts with
  | nil => exact absurd rfl hne
  | cons t ts ih =>
    obtain ⟨here, others⟩ := List.forall_mem_cons.1 h
    rcases eq_or_ne ts [] with rfl | hts
    · rwa [List.intercalate_singleton]
    · obtain ⟨c, rest, rfl, hc⟩ := here.exists_cons
      obtain ⟨rest', d, heq, hd⟩ := (ih others hts).exists_concat
      rw [List.intercalate_cons_of_ne_nil hts, heq]
      exact ⟨⟨c, _, rfl, hc⟩, ⟨_, d, (List.append_assoc ..).symm, hd⟩⟩

variable (h : IsFramed s)
include h

/-- It has a first character, -/
theorem ne_nil : s ≠ [] := by
  obtain ⟨c, rest, rfl, -⟩ := h.exists_cons
  exact List.cons_ne_nil c rest

/-- which is no white space. -/
theorem isBlank_eq_false : isBlank s = false := by
  obtain ⟨c, rest, rfl, hc⟩ := h.exists_cons
  rw [isBlank, List.all_cons, hc, Bool.false_and]

/-- Nor is its last one. -/
theorem ends : ∀ c ∈ s.getLast?, isWhitespace c = false := by
  obtain ⟨rest, c, rfl, hc⟩ := h.exists_concat
  rw [List.getLast?_concat]
  rintro _ ⟨⟩
  exact hc

/-- Trimming takes the blank lines around it, and nothing of the text itself. -/
theorem trim_block_eq : trim (block s) = s := by
  obtain ⟨c, rest, rfl, hc⟩ := h.exists_cons
  rw [trim_block h.ends h.isBlank_eq_false]
  exact trimStartWhile_cons_of_not (by simp [hc]) rest

/-- The final form takes them as well, and then looks at blank lines inside. -/
theorem tidy_block_eq : tidy (block s) = collapseBlankLines s := by
  refine tidy_block h.ends h.ne_nil ?_
  obtain ⟨c, rest, rfl, hc⟩ := h.exists_cons
  rintro _ ⟨⟩
  exact isLeadingBreak_of_not_isWhitespace hc

/-- A single line is tight. -/
theorem isTight (hs : '\n' ∉ s) : IsTight s where
  toIsFramed := h
  newlinesMeet := by
    refine newlinesMeet_of_lines ?_
    rw [lines_of_not_mem hs, List.forall_mem_singleton, isFilled, h.isBlank_eq_false]
    rfl

end IsFramed

/-! ## Texts one after another -/

/-- The newlines between two blocks. -/
def gap : List Char :=
  ['\n', '\n', '\n', '\n']

/-- Texts with one empty line between each of them and the next. -/
def spaced (ts : List (List Char)) : List Char :=
  ['\n', '\n'].intercalate ts

/-- The blank lines around blocks in a row. -/
theorem flatMap_block (hne : ts ≠ []) : ts.flatMap block = block (gap.intercalate ts) := by
  induction ts with
  | nil => exact absurd rfl hne
  | cons t ts ih =>
    rcases eq_or_ne ts [] with rfl | hts
    · rw [List.flatMap_singleton, List.intercalate_singleton]
    · rw [List.flatMap_cons, ih hts, List.intercalate_cons_of_ne_nil hts]
      simp [block, gap]

/-- What takes two of the newlines between any two texts, and nothing from a tight text, leaves one
empty line in each gap. -/
theorem intercalate_gap_eq_spaced {f : List Char → List Char}
    (keeps : ∀ t, NewlinesMeet t → f t = t)
    (closes : ∀ s c d t, isWhitespace c = false → isWhitespace d = false →
      f (s ++ c :: (gap ++ d :: t)) = f (s ++ [c]) ++ ['\n', '\n'] ++ f (d :: t))
    (h : ∀ t ∈ ts, IsTight t) (hne : ts ≠ []) : f (gap.intercalate ts) = spaced ts := by
  induction ts with
  | nil => exact absurd rfl hne
  | cons t ts ih =>
    obtain ⟨here, others⟩ := List.forall_mem_cons.1 h
    rcases eq_or_ne ts [] with rfl | hts
    · rw [spaced, List.intercalate_singleton, List.intercalate_singleton]
      exact keeps t here.newlinesMeet
    · obtain ⟨front, c, rfl, hc⟩ := here.exists_concat
      obtain ⟨d, rest, heq, hd⟩ :=
        (IsFramed.intercalate (fun t ht => (others t ht).toIsFramed) hts gap).exists_cons
      rw [spaced, List.intercalate_cons_of_ne_nil hts, List.intercalate_cons_of_ne_nil hts,
        ← spaced, ← ih others hts, heq, List.append_assoc, List.append_assoc,
        List.singleton_append, closes front c d rest hc hd, keeps _ here.newlinesMeet]

section Rows

variable (h : ∀ t ∈ ts, IsTight t) (hne : ts ≠ [])
include h hne

/-- The four newlines in a gap become two, and in the texts themselves there are no three
together. -/
theorem collapseNewlines_intercalate_gap : collapseNewlines (gap.intercalate ts) = spaced ts := by
  refine intercalate_gap_eq_spaced (fun _ => collapseNewlines_eq_self) ?_ h hne
  intro s c d t hc hd
  have not_newline {e : Char} (he : isWhitespace e = false) : e ≠ '\n' := by
    rintro rfl
    cases he
  rw [collapseNewlines, collapseNewlinesFrom_append_cons (not_newline hc), collapseNewlines,
    collapseNewlines, List.append_assoc]
  simp [gap, collapseNewlinesFrom, not_newline hd]

/-- The same for the final form, which looks at all white space between lines. -/
theorem collapseBlankLines_intercalate_gap :
    collapseBlankLines (gap.intercalate ts) = spaced ts := by
  refine intercalate_gap_eq_spaced (fun _ => collapseBlankLines_eq_self) ?_ h hne
  intro s c d t hc hd
  have closed : tidyRun gap = ['\n', '\n'] := by decide
  have begun : collapseBlankLines (d :: t) = d :: collapseBlankLines t :=
    collapseBlankLines_append_cons (show isBlank [] = true from rfl) hd t
  rw [collapseBlankLines_append_cons_of_not hc, collapseBlankLines_append_cons (by decide) hd,
    closed, begun, List.append_assoc]

/-- Texts with gaps between them begin with the first and end with the last of them. -/
theorem isFramed_intercalate_gap : IsFramed (gap.intercalate ts) :=
  IsFramed.intercalate (fun t ht => (h t ht).toIsFramed) hne gap

/-- Tight texts with one empty line between them are a tight text. -/
theorem isTight_spaced : IsTight (spaced ts) where
  toIsFramed := IsFramed.intercalate (fun t ht => (h t ht).toIsFramed) hne _
  newlinesMeet := by
    rw [← collapseBlankLines_intercalate_gap h hne]
    exact newlinesMeet_collapseBlankLines _

end Rows

/-- **In a quotation** one empty line is left between two blocks. The four newlines between two
blocks are made two, and those around all blocks are trimmed. -/
theorem collapseNewlines_trim_blocks (h : ∀ t ∈ ts, IsTight t) :
    collapseNewlines (trim (ts.flatMap block)) = spaced ts := by
  rcases eq_or_ne ts [] with rfl | hne
  · rfl
  · rw [flatMap_block hne, (isFramed_intercalate_gap h hne).trim_block_eq,
      collapseNewlines_intercalate_gap h hne]

/-- **In the final form** it is one as well. The steps are others, but no white space stands between
blocks besides these newlines. -/
theorem tidy_blocks (h : ∀ t ∈ ts, IsTight t) : tidy (ts.flatMap block) = spaced ts := by
  rcases eq_or_ne ts [] with rfl | hne
  · rfl
  · rw [flatMap_block hne, (isFramed_intercalate_gap h hne).tidy_block_eq,
      collapseBlankLines_intercalate_gap h hne]

end Text

/-- **A quotation is tight**, since no line of it is blank. A quotation can therefore stand in
another one as any other block. -/
theorem Rule.isTight_quoteLines {s : List Char} (h : Text.IsFramed s) :
    Text.IsTight (quoteLines s) where
  exists_cons := ⟨'>', _, quoteLines_eq s, by decide⟩
  exists_concat := by
    obtain ⟨rest, c, rfl, hc⟩ := h.exists_concat
    have hnewline : '\n' ∉ [c] := by
      rw [List.mem_singleton]
      rintro rfl
      cases hc
    refine ⟨"> ".toList ++ Text.afterNewlines "> ".toList rest, c, ?_, hc⟩
    rw [quoteLines_eq, Text.afterNewlines_append, Text.afterNewlines_of_not_mem hnewline,
      List.append_assoc]
  newlinesMeet := by
    refine Text.newlinesMeet_of_lines ?_
    rw [lines_quoteLines, List.forall_mem_map]
    exact fun l _ => Text.isFilled_append (s := "> ".toList) rfl l

end Tagdown
