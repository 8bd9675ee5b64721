import Mathlib.Data.List.Basic
import Mathlib.Data.List.Infix
import Tagdown.Text.Tidy

/-!
# Words

The words of a text are its longest stretches without white space. In a document a word also ends
where a block begins or ends, so what is read there is a list of marks: characters, and `none` for
each such boundary.

All that has to be known of the words of a list is how it splits at a break (`words_append_cons`).
Breaks next to each other count as one, and so two lists have the same words whatever stands around
them if they differ in the lengths of their breaks only. This is `SameWords`. The final form of
Markdown is an instance: it has the words of the text that it is made of (`words_tidy`). Texts with
the same words have the same number of characters that are no white space (`ink_eq_of_words`).

If boundaries are left out, words can change in one way only, that two of them had nothing but
boundaries between them (`words_eraseBoundaries_eq_iff`).
-/

namespace Tagdown.Text

/-! ## Marks and their words -/

/-- A character, or `none` where a block begins or ends. -/
abbrev Mark := Option Char

/-- White space ends a word, and so does the boundary of a block. -/
def Mark.isBreak : Mark → Bool
  | none => true
  | some c => isWhitespace c

/-- A text as marks. -/
def marks (s : List Char) : List Mark :=
  s.map some

/-- The stretches between the breaks. -/
def words (l : List Mark) : List (List Mark) :=
  (l.splitOnP Mark.isBreak).filter (· ≠ [])

variable {l l' l₁ l₁' l₂ l₂' : List Mark}

@[simp] theorem marks_append (s s' : List Char) : marks (s ++ s') = marks s ++ marks s' :=
  List.map_append

/-- White space as marks is breaks only. -/
theorem isBreak_of_mem_marks {s : List Char} (hs : ∀ c ∈ s, isWhitespace c = true) {b : Mark}
    (hb : b ∈ marks s) : b.isBreak = true := by
  obtain ⟨c, hc, rfl⟩ := List.mem_map.1 hb
  exact hs c hc

/-- A break separates: the words of the two sides have nothing to do with each other. -/
theorem words_append_cons (l r : List Mark) {b : Mark} (hb : b.isBreak = true) :
    words (l ++ b :: r) = words l ++ words r := by
  rw [words, List.splitOnP_append_cons l r hb, List.filter_append, words, words]

/-- A break in front begins no word. -/
theorem words_cons_of_break (r : List Mark) {b : Mark} (hb : b.isBreak = true) :
    words (b :: r) = words r :=
  words_append_cons [] r hb

/-- A character that ends no word is a word, or the beginning of the one that follows it. -/
theorem words_cons_of_not_break (r : List Mark) {b : Mark} (hb : b.isBreak = false) :
    words (b :: r) = if r.head?.all Mark.isBreak then [b] :: words r
      else (words r).modifyHead (b :: ·) := by
  cases r with
  | nil => simp [words, List.splitOnP_cons_eq_if_modifyHead, hb]
  | cons x r =>
    cases hx : x.isBreak with
    | true => simp [words, List.splitOnP_cons_eq_if_modifyHead, hb, hx]
    | false =>
      obtain ⟨w, ws, hws⟩ := List.exists_cons_of_ne_nil (List.splitOnP_ne_nil Mark.isBreak r)
      simp [words, List.splitOnP_cons_eq_if_modifyHead, hb, hx, hws]

/-- Breaks before all else do not matter. -/
theorem words_append_of_breaks_left {l : List Mark} (hl : ∀ b ∈ l, b.isBreak = true)
    (r : List Mark) : words (l ++ r) = words r := by
  induction l with
  | nil => rfl
  | cons b l ih =>
    rw [List.cons_append, words_cons_of_break _ (hl b List.mem_cons_self),
      ih fun x hx => hl x (List.mem_cons_of_mem b hx)]

/-- Breaks after all else do not matter. -/
theorem words_append_of_breaks_right (l : List Mark) {r : List Mark}
    (hr : ∀ b ∈ r, b.isBreak = true) : words (l ++ r) = words l := by
  cases r with
  | nil => rw [List.append_nil]
  | cons b r =>
    have rest : words r = [] := by
      have := words_append_of_breaks_left (fun x hx => hr x (List.mem_cons_of_mem b hx)) []
      rwa [List.append_nil] at this
    rw [words_append_cons l r (hr b List.mem_cons_self), rest, List.append_nil]

/-! ## The same words in every place -/

/-- Whatever stands before and after them, one gives the words that the other one gives. -/
def SameWords (l l' : List Mark) : Prop :=
  ∀ a b, words (a ++ l ++ b) = words (a ++ l' ++ b)

namespace SameWords

theorem refl (l : List Mark) : SameWords l l :=
  fun _ _ => rfl

/-- Neither side is the one to be changed. -/
theorem symm (h : SameWords l l') : SameWords l' l :=
  fun a b => (h a b).symm

/-- Changes can be made one after the other. -/
theorem trans (h : SameWords l l₁) (h' : SameWords l₁ l') : SameWords l l' :=
  fun a b => (h a b).trans (h' a b)

/-- With nothing around them, the two have the same words. -/
theorem words_eq (h : SameWords l l') : words l = words l' := by
  have := h [] []
  rwa [List.append_nil, List.append_nil, List.nil_append, List.nil_append] at this

/-- Two parts are changed independently, since each change holds whatever stands around it. -/
theorem append (h₁ : SameWords l₁ l₁') (h₂ : SameWords l₂ l₂') :
    SameWords (l₁ ++ l₂) (l₁' ++ l₂') := by
  intro a b
  have left := h₁ a (l₂ ++ b)
  have right := h₂ (a ++ l₁') b
  simp only [List.append_assoc] at left right ⊢
  rw [left, right]

/-- What is in front may be a letter that runs into the word that follows. -/
theorem cons (b : Mark) (h : SameWords l l') : SameWords (b :: l) (b :: l') :=
  append (refl [b]) h

/-- One break is as good as any number of them. -/
theorem breaks (hl : ∀ b ∈ l, b.isBreak = true) (hne : l ≠ [])
    (hl' : ∀ b ∈ l', b.isBreak = true) (hne' : l' ≠ []) : SameWords l l' := by
  have split (a r : List Mark) {l : List Mark} (hl : ∀ b ∈ l, b.isBreak = true) (hne : l ≠ []) :
      words (a ++ l ++ r) = words a ++ words r := by
    obtain ⟨b, l, rfl⟩ := List.exists_cons_of_ne_nil hne
    rw [List.append_assoc, List.cons_append, words_append_cons a _ (hl b List.mem_cons_self),
      words_append_of_breaks_left fun x hx => hl x (List.mem_cons_of_mem b hx)]
  exact fun a r => (split a r hl hne).trans (split a r hl' hne').symm

/-- A break takes in all breaks that follow it. -/
theorem absorb_right {b : Mark} (hb : b.isBreak = true) (hl : ∀ x ∈ l, x.isBreak = true) :
    SameWords (b :: l) [b] :=
  breaks (List.forall_mem_cons.2 ⟨hb, hl⟩) (List.cons_ne_nil b l)
    (fun _ hx => List.mem_singleton.1 hx ▸ hb) (List.cons_ne_nil b [])

/-- A break takes in all breaks that stand before it. -/
theorem absorb_left {b : Mark} (hb : b.isBreak = true) (hl : ∀ x ∈ l, x.isBreak = true) :
    SameWords (l ++ [b]) [b] := by
  refine breaks (fun x hx => ?_) (List.append_ne_nil_of_right_ne_nil l (List.cons_ne_nil b []))
    (fun _ hx => List.mem_singleton.1 hx ▸ hb) (List.cons_ne_nil b [])
  rcases List.mem_append.1 hx with hx | hx
  · exact hl x hx
  · exact List.mem_singleton.1 hx ▸ hb

end SameWords

/-- Any white space may stand for any other, as long as there is some. -/
theorem sameWords_of_white {s s' : List Char} (hs : ∀ c ∈ s, isWhitespace c = true) (hne : s ≠ [])
    (hs' : ∀ c ∈ s', isWhitespace c = true) (hne' : s' ≠ []) :
    SameWords (marks s) (marks s') :=
  .breaks (fun _ => isBreak_of_mem_marks hs) (mt List.map_eq_nil_iff.1 hne)
    (fun _ => isBreak_of_mem_marks hs') (mt List.map_eq_nil_iff.1 hne')

/-! ## The final form of a text -/

/-- White space before all else does not matter, -/
theorem words_trimStartWhile {p : Char → Bool} (hp : ∀ c, p c = true → isWhitespace c = true)
    (s : List Char) : words (marks (trimStartWhile p s)) = words (marks s) := by
  conv_rhs => rw [← List.takeWhile_append_dropWhile (p := p) (l := s), marks_append]
  refine (words_append_of_breaks_left (fun b hb => isBreak_of_mem_marks (fun c hc => ?_) hb) _).symm
  exact hp c (List.all_eq_true.1 (List.all_takeWhile ..) c hc)

/-- What is trimmed at the end, put back. -/
theorem trimEndWhile_append (p : Char → Bool) (s : List Char) :
    trimEndWhile p s ++ (s.reverse.takeWhile p).reverse = s := by
  rw [trimEndWhile, ← List.reverse_append, List.takeWhile_append_dropWhile, List.reverse_reverse]

/-- nor does white space after all else. -/
theorem words_trimEndWhile {p : Char → Bool} (hp : ∀ c, p c = true → isWhitespace c = true)
    (s : List Char) : words (marks (trimEndWhile p s)) = words (marks s) := by
  conv_rhs => rw [← trimEndWhile_append p s, marks_append]
  refine (words_append_of_breaks_right _ fun b hb => isBreak_of_mem_marks (fun c hc => ?_) hb).symm
  exact hp c (List.all_eq_true.1 (List.all_takeWhile ..) c (List.mem_reverse.1 hc))

/-- A run between two words stays a run: tidying shortens it and never empties it. -/
theorem sameWords_tidyRun {run : List Char} (hrun : ∀ c ∈ run, isWhitespace c = true) :
    SameWords (marks (tidyRun run)) (marks run) := by
  rw [tidyRun]
  split
  · rename_i hlines
    refine sameWords_of_white (fun c hc => ?_) (by simp) hrun ?_
    · simp only [List.mem_append, List.mem_cons, List.not_mem_nil, or_false, List.mem_reverse] at hc
      rcases hc with (hc | rfl | rfl) | hc
      · exact hrun c ((List.takeWhile_prefix _).subset hc)
      · decide
      · decide
      · exact hrun c (List.mem_reverse.1 ((List.takeWhile_prefix _).subset hc))
    · rintro rfl
      exact absurd hlines (by decide)
  · exact .refl _

/-- By induction on the text, with the white space read so far held back in `run`. -/
theorem sameWords_collapseBlankLinesFrom (s : List Char) :
    ∀ run, (∀ c ∈ run, isWhitespace c = true) →
      SameWords (marks (collapseBlankLinesFrom run s)) (marks (run.reverse ++ s)) := by
  induction s with
  | nil =>
    intro run hrun
    rw [collapseBlankLinesFrom, List.append_nil]
    exact sameWords_tidyRun fun c hc => hrun c (List.mem_reverse.1 hc)
  | cons c s ih =>
    intro run hrun
    rw [collapseBlankLinesFrom]
    split
    · rename_i hc
      have := ih (c :: run) (List.forall_mem_cons.2 ⟨hc, hrun⟩)
      rwa [List.reverse_cons, List.append_assoc] at this
    · rw [marks_append, marks_append]
      refine .append (sameWords_tidyRun fun c hc => hrun c (List.mem_reverse.1 hc)) ?_
      exact .cons (some c) (ih [] (by simp))

/-- Newlines that go have a newline before them that stays. -/
theorem sameWords_collapseNewlinesFrom (s : List Char) :
    SameWords (marks (collapseNewlinesFrom 0 s)) (marks s) ∧
      ∀ seen, SameWords (some '\n' :: marks (collapseNewlinesFrom seen s))
        (some '\n' :: marks s) := by
  induction s with
  | nil => exact ⟨.refl _, fun _ => .refl _⟩
  | cons c s ih =>
    obtain ⟨start, inside⟩ := ih
    by_cases hc : c = '\n'
    · subst hc
      refine ⟨inside 1, fun seen => ?_⟩
      rw [collapseNewlinesFrom, if_pos rfl]
      split
      · exact .cons _ (inside (seen + 1))
      -- the newline that goes has one before it
      · have one : SameWords [some '\n', some '\n'] [some '\n'] :=
          .absorb_right rfl (by simp [Mark.isBreak, isWhitespace])
        exact (inside (seen + 1)).trans (one.append (.refl (marks s))).symm
    · refine ⟨?_, fun seen => ?_⟩
      · rw [collapseNewlinesFrom, if_neg hc]
        exact .cons _ start
      · rw [collapseNewlinesFrom, if_neg hc]
        exact .cons _ (.cons _ start)

/-- **The final form of a text has its words.** Each of its steps takes white space out or leaves
other white space in its place. -/
theorem words_tidy (s : List Char) : words (marks (tidy s)) = words (marks s) := by
  rw [tidy, collapseNewlines, (sameWords_collapseNewlinesFrom _).1.words_eq, collapseBlankLines,
    (sameWords_collapseBlankLinesFrom _ [] (by simp)).words_eq, List.reverse_nil, List.nil_append,
    words_trimEndWhile (fun _ hc => hc), words_trimStartWhile]
  intro c hc
  simp only [Bool.or_eq_true, beq_iff_eq] at hc
  rcases hc with (rfl | rfl) | rfl <;> decide

/-! ## The characters of the words -/

/-- The number of characters that are no white space. -/
def ink (s : List Char) : Nat :=
  s.countP fun c => !isWhitespace c

theorem ink_append (s s' : List Char) : ink (s ++ s') = ink s + ink s' :=
  List.countP_append

/-- Characters are counted one at a time. -/
theorem ink_cons (c : Char) (s : List Char) : ink (c :: s) = ink [c] + ink s :=
  ink_append [c] s

/-- The words of a list have all in it that is no break. -/
theorem flatten_words (l : List Mark) : (words l).flatten = l.filter fun b => !b.isBreak := by
  have nonempty (ws : List (List Mark)) : (ws.filter (· ≠ [])).flatten = ws.flatten := by
    induction ws with
    | nil => rfl
    | cons w ws ih => cases w <;> simp_all
  rw [words, nonempty]
  induction l with
  | nil => rfl
  | cons b l ih =>
    rw [List.splitOnP_cons_eq_if_modifyHead]
    cases hb : b.isBreak with
    | true => simpa [hb] using ih
    | false =>
      obtain ⟨w, ws, hws⟩ := List.exists_cons_of_ne_nil (List.splitOnP_ne_nil Mark.isBreak l)
      rw [hws] at ih ⊢
      simpa [hb] using ih

/-- What has the same words has the same number of characters that are no white space. -/
theorem ink_eq_of_words {s s' : List Char} (h : words (marks s) = words (marks s')) :
    ink s = ink s' := by
  have count (s : List Char) : ink s = (words (marks s)).flatten.length := by
    rw [flatten_words, marks, List.filter_map, List.length_map, ink, List.countP_eq_length_filter]
    rfl
  rw [count, count, h]

/-! ## Boundaries left out -/

/-- The marks without boundaries. -/
def eraseBoundaries (l : List Mark) : List Mark :=
  l.filter Option.isSome

/-- Two characters that belong to words have nothing but boundaries between them, one or more. -/
def HasSeam (l : List Mark) : Prop :=
  ∃ c d n, isWhitespace c = false ∧ isWhitespace d = false ∧
    some c :: (List.replicate (n + 1) none ++ [some d]) <:+: l

/-- Past any boundaries that there are, a word begins. -/
def Opens (l : List Mark) : Prop :=
  ∃ d n, isWhitespace d = false ∧ List.replicate n none ++ [some d] <+: l

/-- Nothing begins where there is nothing. -/
@[simp] theorem not_opens_nil : ¬ Opens [] := by
  rintro ⟨d, n, -, h⟩
  simp at h

/-- A boundary is looked past. -/
@[simp] theorem opens_cons_none : Opens (none :: l) ↔ Opens l := by
  constructor
  · rintro ⟨d, _ | n, hd, h⟩
    · simp at h
    · exact ⟨d, n, hd, (List.cons_prefix_cons.1 h).2⟩
  · rintro ⟨d, n, hd, h⟩
    exact ⟨d, n + 1, hd, List.cons_prefix_cons.2 ⟨rfl, h⟩⟩

/-- At a character it is decided: a word begins with it, or there is white space. -/
@[simp] theorem opens_cons_some {c : Char} : Opens (some c :: l) ↔ isWhitespace c = false := by
  constructor
  · rintro ⟨d, _ | n, hd, h⟩
    · obtain ⟨heq, -⟩ := List.cons_prefix_cons.1 h
      rwa [← Option.some.inj heq]
    · simp [List.replicate_succ] at h
  · exact fun hc => ⟨c, 0, hc, by simp⟩

@[simp] theorem not_hasSeam_nil : ¬ HasSeam [] := by
  rintro ⟨c, d, n, -, -, h⟩
  simp at h

/-- A seam is at the front, or further on. -/
theorem hasSeam_cons {b : Mark} :
    HasSeam (b :: l) ↔ (b.isBreak = false ∧ l.head? = some none ∧ Opens l) ∨ HasSeam l := by
  constructor
  · rintro ⟨c, d, n, hc, hd, h⟩
    rcases List.infix_cons_iff.1 h with hfront | h
    · obtain ⟨rfl, r, rfl⟩ := List.cons_prefix_cons.1 hfront
      exact Or.inl ⟨hc, rfl, d, n + 1, hd, List.prefix_append ..⟩
    · exact Or.inr ⟨c, d, n, hc, hd, h⟩
  · rintro (⟨hb, hhead, d, n, hd, h⟩ | ⟨c, d, n, hc, hd, h⟩)
    · obtain ⟨c, rfl⟩ : ∃ c, b = some c := by
        cases b with
        | none => cases hb
        | some c => exact ⟨c, rfl⟩
      cases n with
      | zero =>
        obtain ⟨r, rfl⟩ := h
        cases hhead
      | succ n =>
        exact ⟨c, d, n, hb, hd, List.infix_cons_iff.2 (Or.inl (List.cons_prefix_cons.2 ⟨rfl, h⟩))⟩
    · exact ⟨c, d, n, hc, hd, List.infix_cons_iff.2 (Or.inr h)⟩

/-- Without the boundaries, what follows is the word that begins past them. -/
theorem head?_eraseBoundaries (l : List Mark) :
    (eraseBoundaries l).head?.all Mark.isBreak = true ↔ ¬ Opens l := by
  induction l with
  | nil => simp [eraseBoundaries]
  | cons b l ih =>
    cases b with
    | none => rwa [opens_cons_none]
    | some c => simp [eraseBoundaries, Mark.isBreak]

/-- A word begins at once. -/
theorem opens_of_head? (h : l.head?.all Mark.isBreak = false) : Opens l := by
  rcases l with _ | ⟨_ | c, l⟩
  · cases h
  · cases h
  · exact opens_cons_some.2 h

/-- If a word begins, but not at once, there is a boundary first. -/
theorem Opens.head?_eq (h : Opens l) (hl : l.head?.all Mark.isBreak = true) :
    l.head? = some none := by
  rcases l with _ | ⟨_ | c, l⟩
  · exact absurd h not_opens_nil
  · rfl
  · have hc : isWhitespace c = true := hl
    rw [opens_cons_some.1 h] at hc
    cases hc

/-- Lists of words whose first words grow by the same mark are the same just if they were so
before. -/
theorem modifyHead_cons_inj (b : Mark) (ws ws' : List (List Mark)) :
    ws.modifyHead (b :: ·) = ws'.modifyHead (b :: ·) ↔ ws = ws' := by
  cases ws <;> cases ws' <;> simp

/-- Words can become fewer without the boundaries, and they are the same just if there is no seam.
The first is what tells a seam: words that are run together are fewer. -/
theorem words_eraseBoundaries (l : List Mark) :
    (words (eraseBoundaries l)).length ≤ (words l).length ∧
      (words (eraseBoundaries l) = words l ↔ ¬ HasSeam l) := by
  induction l with
  | nil => exact ⟨Nat.le_refl _, by simp [eraseBoundaries]⟩
  | cons b l ih =>
    obtain ⟨fewer, same⟩ := ih
    cases hb : b.isBreak with
    | true =>
      have erased : words (eraseBoundaries (b :: l)) = words (eraseBoundaries l) := by
        cases b with
        | none => rfl
        | some c => exact words_cons_of_break _ hb
      rw [erased, words_cons_of_break l hb, hasSeam_cons]
      exact ⟨fewer, by simpa [hb] using same⟩
    | false =>
      obtain ⟨c, rfl⟩ : ∃ c, b = some c := by
        cases b with
        | none => cases hb
        | some c => exact ⟨c, rfl⟩
      have erased : eraseBoundaries (some c :: l) = some c :: eraseBoundaries l := rfl
      rw [erased, words_cons_of_not_break _ hb, words_cons_of_not_break _ hb, hasSeam_cons]
      by_cases hopens : Opens l
      · rw [if_neg (mt (head?_eraseBoundaries l).1 (not_not_intro hopens))]
        cases hl : l.head?.all Mark.isBreak with
        | true =>
          -- the word that begins past the boundaries is run together with this one
          rw [if_pos rfl]
          have shorter : ((words (eraseBoundaries l)).modifyHead (some c :: ·)).length <
              ([some c] :: words l).length := by
            rw [List.length_modifyHead, List.length_cons]
            omega
          refine ⟨Nat.le_of_lt shorter, ?_⟩
          simp only [hb, hopens, hopens.head?_eq hl, and_self, true_or, not_true, iff_false]
          exact fun heq => Nat.ne_of_lt shorter (congrArg List.length heq)
        | false =>
          rw [if_neg Bool.false_ne_true, List.length_modifyHead, List.length_modifyHead]
          refine ⟨fewer, ?_⟩
          have hhead : l.head? ≠ some none := by
            intro hhead
            rw [hhead] at hl
            cases hl
          rw [modifyHead_cons_inj, same]
          simp [hhead]
      · have hl : l.head?.all Mark.isBreak = true := by
          by_contra h
          exact hopens (opens_of_head? (Bool.not_eq_true _ ▸ h))
        rw [if_pos ((head?_eraseBoundaries l).2 hopens), if_pos hl]
        exact ⟨Nat.succ_le_succ fewer, by simpa [hopens] using same⟩

/-- **What boundaries are for**: without them the words are the same just if there is no seam. At a
seam a boundary is all that stands between two words. -/
theorem words_eraseBoundaries_eq_iff (l : List Mark) :
    words (eraseBoundaries l) = words l ↔ ¬ HasSeam l :=
  (words_eraseBoundaries l).2

instance (l : List Mark) : Decidable (HasSeam l) :=
  decidable_of_iff (¬ words (eraseBoundaries l) = words l)
    (by rw [words_eraseBoundaries_eq_iff, Classical.not_not])

end Tagdown.Text
