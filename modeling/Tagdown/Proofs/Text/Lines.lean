import Tagdown.Proofs.Text.BlankLines
import Tagdown.Rule.Standard

/-!
# Texts line by line

What stands in a quotation or in an item has the same prefix put before each of its lines, and that
is done by putting the prefix after every newline (`afterNewlines`, `lines_afterNewlines`). White
space is then trimmed from whole texts and not from lines, and so it is the first line, and any
blank ones before it, that lose something (`lines_trimStartWhile`).

In the final form one empty line is left of several blank lines, save that the first line of a text
stays whatever it is (`lines_collapseBlankLines`). Where no line is blank, there is nothing to be
done (`newlinesMeet_of_lines`).
-/

namespace Tagdown

namespace Text

variable {p : Char → Bool} {pre l s t : List Char} {ls : List (List Char)}

/-- A text is read line by line. -/
@[elab_as_elim]
theorem inductionOnLines {P : List Char → Prop} (last : ∀ l, '\n' ∉ l → P l)
    (line : ∀ l s, '\n' ∉ l → P s → P (l ++ '\n' :: s)) (s : List Char) : P s := by
  induction hn : s.length using Nat.strong_induction_on generalizing s with
  | _ n ih =>
    by_cases hs : '\n' ∈ s
    · obtain ⟨l, rest, rfl, hl⟩ := List.eq_append_cons_of_mem hs
      refine line l rest hl (ih rest.length ?_ rest rfl)
      rw [← hn, List.length_append, List.length_cons]
      omega
    · exact last s hs

/-- A first line without a line feed in it is split off as it is. -/
theorem lines_line (hl : '\n' ∉ l) (s : List Char) : lines (l ++ '\n' :: s) = l :: lines s := by
  rw [lines_append_newline, lines_of_not_mem hl, List.singleton_append]

/-- Even the empty text has one line, an empty one. -/
theorem lines_ne_nil (s : List Char) : lines s ≠ [] :=
  List.splitOn_ne_nil '\n' s

/-- Lines that are joined are found again, as long as none has a line feed of its own. -/
theorem lines_intercalate (hls : ∀ l ∈ ls, '\n' ∉ l) (hne : ls ≠ []) :
    lines (['\n'].intercalate ls) = ls :=
  List.splitOn_intercalate '\n' hls hne

/-! ## A prefix for each line

To put the prefix after each newline gives it to all lines but the first one. -/

/-- Put the prefix after every newline. -/
def afterNewlines (pre s : List Char) : List Char :=
  s.flatMap fun c => if c = '\n' then '\n' :: pre else [c]

@[simp] theorem afterNewlines_nil (pre : List Char) : afterNewlines pre [] = [] := rfl

/-- What goes behind line feeds does not depend on the text before, and so the two parts are done
apart. -/
theorem afterNewlines_append (pre s t : List Char) :
    afterNewlines pre (s ++ t) = afterNewlines pre s ++ afterNewlines pre t :=
  List.flatMap_append

theorem afterNewlines_newline (pre s : List Char) :
    afterNewlines pre ('\n' :: s) = '\n' :: (pre ++ afterNewlines pre s) := rfl

theorem afterNewlines_cons {c : Char} (hc : c ≠ '\n') (pre s : List Char) :
    afterNewlines pre (c :: s) = c :: afterNewlines pre s := by
  rw [afterNewlines, List.flatMap_cons, if_neg hc]
  rfl

/-- On a single line there is nothing to put it behind. -/
theorem afterNewlines_of_not_mem (hs : '\n' ∉ s) : afterNewlines pre s = s := by
  induction s with
  | nil => rfl
  | cons c s ih =>
    rw [List.mem_cons, not_or] at hs
    rw [afterNewlines_cons (Ne.symm hs.1), ih hs.2]

/-- The first line stays as it is and the next begins with the prefix. -/
theorem afterNewlines_line (hl : '\n' ∉ l) (pre s : List Char) :
    afterNewlines pre (l ++ '\n' :: s) = l ++ '\n' :: (pre ++ afterNewlines pre s) := by
  rw [afterNewlines_append, afterNewlines_of_not_mem hl, afterNewlines_newline]

/-- **Each line has the prefix** if the first one is given it too. A prefix with a newline in it
would make further lines. -/
theorem lines_append_afterNewlines (hpre : '\n' ∉ pre) (s : List Char) :
    lines (pre ++ afterNewlines pre s) = (lines s).map (pre ++ ·) := by
  induction s using inductionOnLines with
  | last l hl =>
    rw [afterNewlines_of_not_mem hl, lines_of_not_mem hl, lines_of_not_mem (by simp [hpre, hl]),
      List.map_singleton]
  | line l s hl ih =>
    rw [afterNewlines_line hl, lines_line hl, List.map_cons, ← ih, ← List.append_assoc,
      lines_line (by simp [hpre, hl])]

/-- If not, the others have it. -/
theorem lines_afterNewlines (hpre : '\n' ∉ pre) (hs : lines s = l :: ls) :
    lines (afterNewlines pre s) = l :: ls.map (pre ++ ·) := by
  cases s using inductionOnLines with
  | last m hm =>
    rw [lines_of_not_mem hm] at hs
    obtain ⟨rfl, rfl⟩ := List.cons.inj hs
    rw [afterNewlines_of_not_mem hm, lines_of_not_mem hm, List.map_nil]
  | line m s hm =>
    rw [lines_line hm] at hs
    obtain ⟨rfl, rfl⟩ := List.cons.inj hs
    rw [afterNewlines_line hm, lines_line hm, lines_append_afterNewlines hpre]

/-- A prefix of white space goes when the text is trimmed. -/
theorem trimStartWhile_append_afterNewlines (hp : p '\n' = true) (hpre : ∀ c ∈ pre, p c = true)
    (s : List Char) :
    trimStartWhile p (pre ++ afterNewlines pre s) = afterNewlines pre (trimStartWhile p s) := by
  have skip (t : List Char) : trimStartWhile p (pre ++ t) = trimStartWhile p t :=
    List.dropWhile_append_of_pos hpre
  rw [skip]
  induction s with
  | nil => rfl
  | cons c s ih =>
    by_cases hnewline : c = '\n'
    · rw [hnewline, afterNewlines_newline, trimStartWhile, trimStartWhile,
        List.dropWhile_cons_of_pos hp, List.dropWhile_cons_of_pos hp, ← trimStartWhile, skip, ih,
        trimStartWhile]
    · rw [afterNewlines_cons hnewline, trimStartWhile, trimStartWhile]
      by_cases hc : p c = true
      · rw [List.dropWhile_cons_of_pos hc, List.dropWhile_cons_of_pos hc]
        exact ih
      · rw [List.dropWhile_cons_of_neg hc, List.dropWhile_cons_of_neg hc,
          afterNewlines_cons hnewline]

/-- Text with no line feed passes and starts the count of line feeds anew. -/
theorem collapseNewlinesFrom_append (hs : '\n' ∉ s) (hne : s ≠ []) (t : List Char) :
    ∀ seen, collapseNewlinesFrom seen (s ++ t) = s ++ collapseNewlinesFrom 0 t := by
  induction s with
  | nil => exact absurd rfl hne
  | cons c s ih =>
    intro seen
    rw [List.mem_cons, not_or] at hs
    rw [List.cons_append, collapseNewlinesFrom, if_neg (Ne.symm hs.1)]
    cases s with
    | nil => rfl
    | cons d s => rw [ih hs.2 (List.cons_ne_nil d s)]; rfl

/-- With a prefix after every newline, no two newlines stand next to each other. -/
theorem collapseNewlinesFrom_afterNewlines (hpre : '\n' ∉ pre) (hne : pre ≠ []) (s : List Char) :
    collapseNewlinesFrom 0 (afterNewlines pre s) = afterNewlines pre s := by
  induction s with
  | nil => rfl
  | cons c s ih =>
    by_cases hc : c = '\n'
    · rw [hc, afterNewlines_newline, collapseNewlinesFrom, if_pos rfl, if_pos (by decide),
        collapseNewlinesFrom_append hpre hne, ih]
    · rw [afterNewlines_cons hc, collapseNewlinesFrom, if_neg hc, ih]

/-- A blank prefix makes no blank text solid, nor the other way round. -/
theorem isBlank_afterNewlines (hpre : isBlank pre = true) (s : List Char) :
    isBlank (afterNewlines pre s) = isBlank s := by
  induction s with
  | nil => rfl
  | cons c s ih =>
    by_cases hc : c = '\n'
    · rw [hc, afterNewlines_newline, isBlank, List.all_cons, List.all_append, ← isBlank, ← isBlank,
        hpre, ih, Bool.true_and, isBlank, isBlank, List.all_cons]
    · rw [afterNewlines_cons hc, isBlank, isBlank, List.all_cons, List.all_cons, ← isBlank,
        ← isBlank, ih]

/-- What a text ends with stays at its end. -/
theorem getLast?_afterNewlines (pre : List Char) (ends : ∀ c ∈ s.getLast?, isWhitespace c = false) :
    (afterNewlines pre s).getLast? = s.getLast? := by
  rcases List.eq_nil_or_concat' s with rfl | ⟨rest, c, rfl⟩
  · rfl
  · have hc : c ≠ '\n' := by
      rintro rfl
      exact absurd (ends '\n' (by simp)) (by decide)
    rw [afterNewlines_append, afterNewlines_cons hc, afterNewlines_nil, List.getLast?_concat,
      List.getLast?_concat]

/-! ## Trimming

The white space at the start of a text goes across lines, and so trimming may take whole lines
and then the indentation of another one. -/

theorem not_mem_trimStartWhile (hl : '\n' ∉ l) : '\n' ∉ trimStartWhile p l :=
  fun hmem => hl (mem_trimStartWhile hmem)

/-- **Trimming a text** takes the blank lines before its first line with something in it, and what
is before that in the line itself. All lines after that one stay as they are. -/
theorem lines_trimStartWhile {blanks : List (List Char)} (hl : isFilled l = true) :
    ∀ {s : List Char}, (∀ b ∈ blanks, isFilled b = false) → lines s = blanks ++ l :: ls →
      lines (trimStartWhile isWhitespace s) = trimStartWhile isWhitespace l :: ls := by
  have hl' : l.all isWhitespace = false := Bool.not_eq_true' _ ▸ hl
  -- on the blank lines, with the text cut at its first line feed each time
  induction blanks with
  | nil =>
    intro s _ hs
    cases s using inductionOnLines with
    | last m hm =>
      rw [lines_of_not_mem hm] at hs
      obtain ⟨rfl, rfl⟩ := List.cons.inj hs
      exact lines_of_not_mem (not_mem_trimStartWhile hm)
    | line m s hm =>
      rw [lines_line hm] at hs
      obtain ⟨rfl, rfl⟩ := List.cons.inj hs
      rw [trimStartWhile_append_of_not_all hl', lines_line (not_mem_trimStartWhile hm)]
  | cons b blanks ih =>
    intro s hblanks hs
    obtain ⟨hb, hothers⟩ := List.forall_mem_cons.1 hblanks
    rw [List.cons_append] at hs
    cases s using inductionOnLines with
    | last m hm =>
      rw [lines_of_not_mem hm] at hs
      exact absurd (List.cons.inj hs).2.symm (by simp)
    | line m s hm =>
      rw [lines_line hm] at hs
      obtain ⟨rfl, hlines⟩ := List.cons.inj hs
      -- the first line and its line feed are white space, and trimming takes both
      have hblank : (m ++ ['\n']).all isWhitespace = true := by
        rw [List.all_append, Bool.and_eq_true]
        exact ⟨by simpa [isFilled, isBlank] using hb, by decide⟩
      rw [List.append_cons, trimStartWhile_append_of_all hblank]
      exact ih hothers hlines

/-- A blank line before the text and one after it. -/
def block (s : List Char) : List Char :=
  ['\n', '\n'] ++ s ++ ['\n', '\n']

/-- The line feeds around a block are white space and change nothing about whether it is blank. -/
theorem isBlank_block (s : List Char) : isBlank (block s) = isBlank s := by
  rw [block, isBlank, isBlank, List.all_append, List.all_append]
  show (true && _ && true) = _
  rw [Bool.and_true, Bool.true_and]

section Block

variable (ends : ∀ c ∈ s.getLast?, isWhitespace c = false)
include ends

/-- Trimming a block takes its line feeds and, from the front, what white space the text had
itself. -/
theorem trim_block (hs : isBlank s = false) :
    trim (block s) = trimStartWhile isWhitespace s := by
  rw [trim, block, List.append_assoc, trimStartWhile_append_of_all (by decide),
    trimStartWhile_append_of_not_all hs, trimEndWhile_append_of_all (by decide)]
  refine trimEndWhile_eq_self fun c hc => ends c ?_
  rwa [getLast?_trimStartWhile hs] at hc

/-- A text that starts with no break comes back from a block as it was. -/
theorem stripped_block (hne : s ≠ []) (starts : ∀ c ∈ s.head?, isLeadingBreak c = false) :
    stripped (block s) = s := by
  have start : trimStartWhile isLeadingBreak (s ++ ['\n', '\n']) = s ++ ['\n', '\n'] := by
    cases s with
    | nil => exact absurd rfl hne
    | cons c s => exact trimStartWhile_cons_of_not (by simp [starts c rfl]) _
  rw [stripped, block, List.append_assoc, trimStartWhile_append_of_all (by decide), start,
    trimEndWhile_append_of_all (by decide), trimEndWhile_eq_self ends]

/-- For a whole document that is one block, tidying is down to its blank lines. -/
theorem tidy_block (hne : s ≠ []) (starts : ∀ c ∈ s.head?, isLeadingBreak c = false) :
    tidy (block s) = collapseBlankLines s := by
  rw [tidy_eq, stripped_block ends hne starts]

end Block

/-! ## Blank lines

A run of white space with more than one newline has blank lines in it, which become one empty
line. The line before the run keeps its end and the line after it loses nothing. -/

/-- Where no line is blank, no two newlines have white space between them. -/
theorem newlinesMeet_of_lines (h : ∀ l ∈ lines s, isFilled l = true) : NewlinesMeet s := by
  rintro w hw ⟨before, after, rfl⟩
  have hlines : lines (before ++ '\n' :: (w ++ ['\n']) ++ after) =
      lines before ++ (lines w ++ lines after) := by
    rw [List.append_assoc, List.cons_append, lines_append_newline, List.append_assoc,
      List.singleton_append, lines_append_newline]
  obtain ⟨l, others, hcons⟩ := List.exists_cons_of_ne_nil (lines_ne_nil w)
  have hmem : l ∈ lines w := by simp [hcons]
  have hfilled := h l (by rw [hlines]; simp [hmem])
  rw [isFilled, isBlank_of_mem_lines hw l hmem] at hfilled
  cases hfilled

/-- One empty line for every run of blank lines; `afterBlank` tells whether the line before is
blank. -/
def squeezeFrom (afterBlank : Bool) : List (List Char) → List (List Char)
  | [] => []
  | l :: ls =>
    if isFilled l then l :: squeezeFrom false ls
    else if afterBlank then squeezeFrom true ls
    else [] :: squeezeFrom true ls

/-- One empty line for every run of blank lines. -/
def squeezeBlanks (ls : List (List Char)) : List (List Char) :=
  squeezeFrom false ls

/-- After a blank line all further ones go, and the next filled line is kept as it is. -/
theorem squeezeFrom_append {blanks : List (List Char)} (hblanks : ∀ b ∈ blanks, isFilled b = false)
    (hl : isFilled l = true) (ls : List (List Char)) :
    squeezeFrom true (blanks ++ l :: ls) = l :: squeezeBlanks ls := by
  induction blanks with
  | nil => rw [List.nil_append, squeezeFrom, if_pos hl, squeezeBlanks]
  | cons b blanks ih =>
    obtain ⟨hb, hblanks⟩ := List.forall_mem_cons.1 hblanks
    rw [List.cons_append, squeezeFrom, hb, if_neg Bool.false_ne_true, if_pos rfl, ih hblanks]

/-- The blank lines before a line with something in it. -/
theorem squeezeBlanks_append {blanks : List (List Char)}
    (hblanks : ∀ b ∈ blanks, isFilled b = false) (hl : isFilled l = true)
    (ls : List (List Char)) :
    squeezeBlanks (blanks ++ l :: ls) = squeeze blanks ++ l :: squeezeBlanks ls := by
  cases blanks with
  | nil => rw [List.nil_append, squeezeBlanks, squeezeFrom, if_pos hl]; rfl
  | cons b blanks =>
    obtain ⟨hb, hblanks⟩ := List.forall_mem_cons.1 hblanks
    rw [List.cons_append, squeezeBlanks, squeezeFrom, hb, if_neg Bool.false_ne_true,
      if_neg Bool.false_ne_true, squeezeFrom_append hblanks hl]
    rfl

/-- **The lines of the final form.** The first line stays, and after it one empty line is left of
every run of blank lines. The text may follow the beginning of a line, for the induction. -/
theorem exists_lines_collapseBlankLines (s : List Char) :
    (∀ c ∈ s.getLast?, isWhitespace c = false) → ∀ line, '\n' ∉ line →
      ∃ first later, lines (line ++ s) = first :: later ∧ line <+: first ∧
        lines (line ++ collapseBlankLines s) = first :: squeezeBlanks later := by
  induction s using inductionOnRuns with
  | blank run hrun =>
    intro ends line hline
    obtain rfl := eq_nil_of_ends ends hrun
    refine ⟨line, [], ?_, List.prefix_refl line, ?_⟩
    · rw [List.append_nil, lines_of_not_mem hline]
    · rw [collapseBlankLines_of_isBlank hrun, tidyRun_of_not_mem List.not_mem_nil, List.append_nil,
        lines_of_not_mem hline]
      rfl
  | solid run c rest hrun hc ih =>
    intro ends line hline
    have hnewline : '\n' ≠ c := by
      rintro rfl
      cases hc
    have next := ih (ends_of_append_cons ends)
    rw [collapseBlankLines_append_cons hrun hc]
    rcases (tidiedRun_tidyRun run).lines_around hrun with
      ⟨hnone, hsame⟩ | ⟨before, blanks, after, hblanks, hafter, around⟩
    -- the line goes on past the run
    · obtain ⟨first, later, hlines, hfirst, hcollapsed⟩ :=
        next (line ++ run ++ [c]) (by simp [hline, hnone, hnewline])
      simp only [List.append_assoc, List.singleton_append] at hlines hcollapsed hfirst
      refine ⟨first, later, hlines, (List.prefix_append ..).trans hfirst, ?_⟩
      rw [hsame]
      exact hcollapsed
    -- the line ends in the run, and the next one begins in it
    · obtain ⟨first, later, hlines, hfirst, hcollapsed⟩ :=
        next (after ++ [c]) (by simp [hafter, hnewline])
      have hfilled : isFilled first = true := by
        obtain ⟨more, rfl⟩ := hfirst
        exact isFilled_append (isFilled_concat after hc) more
      simp only [List.append_assoc, List.singleton_append] at hlines hcollapsed
      refine ⟨line ++ before, blanks ++ first :: later, ?_, List.prefix_append .., ?_⟩
      · rw [(around line (c :: rest) hline).1, hlines]
      · rw [(around line _ hline).2, hcollapsed, squeezeBlanks_append hblanks hfilled]

/-- Said of the lines themselves: the first stays, and after it each run of blank lines leaves an
empty one. -/
theorem lines_collapseBlankLines (ends : ∀ c ∈ s.getLast?, isWhitespace c = false)
    (hs : lines s = l :: ls) : lines (collapseBlankLines s) = l :: squeezeBlanks ls := by
  obtain ⟨first, later, hlines, -, hcollapsed⟩ :=
    exists_lines_collapseBlankLines s ends [] List.not_mem_nil
  rw [List.nil_append, hs] at hlines
  obtain ⟨rfl, rfl⟩ := List.cons.inj hlines
  exact hcollapsed

/-- What is left of blank lines is an empty one, but the first line stays. -/
example : squeezeBlanks ["a".toList, " ".toList, [], "b".toList] =
    ["a".toList, [], "b".toList] := by
  decide

end Text

/-! ## What the bundled rules do to lines -/

namespace Rule

open Text (afterNewlines block lines)

/-- What stands before each line of a code block, and before each line of an item but the first. -/
def indentation : List Char :=
  "    ".toList

/-- Indenting an item puts four blanks behind each line feed. -/
theorem indentLines_eq (s : List Char) : indentLines s = afterNewlines indentation s := rfl

/-- Quoting marks the first line too, which no line feed stands before. -/
theorem quoteLines_eq (s : List Char) :
    quoteLines s = "> ".toList ++ afterNewlines "> ".toList s := rfl

/-- Each line of a quote is a line of the text behind its mark, the blank ones included. -/
theorem lines_quoteLines (s : List Char) :
    lines (quoteLines s) = (lines s).map ("> ".toList ++ ·) :=
  Text.lines_append_afterNewlines (by decide) s

/-- A block as a string is the block of its characters. -/
theorem toList_asBlock (value : String) : (asBlock value).toList = block value.toList := by
  rw [asBlock, String.toList_append, String.toList_append]
  rfl

end Rule

end Tagdown
