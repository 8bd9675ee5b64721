import Tagdown.Normalize
import Tagdown.Proofs.Text.Tidy
import Tagdown.Proofs.Text.Words

/-!
# Numbers that could be read as list markers

A digit, a full stop and a space are what a list in Markdown begins with. `escapeListMarkers`
changes a text just if there are such three characters in it (`escapeListMarkers_eq_self_iff`).

It goes by the space alone. Any other white space after a full stop becomes a space later, when runs
of it are collapsed. `stopFrom` looks for a digit and a full stop with anything that is said of what
follows them, and is followed through all that happens to a text: escaping, trimming, collapsing. In
the end the text has a marker just if the full stop had other white space than a space after it, and
something to print after that (`hasListMarker_tidy_shown_iff`).
-/

namespace Tagdown.Text

/-- There is a digit, a full stop and a space in the text, one right after the other. -/
def HasListMarker (s : List Char) : Prop :=
  ∃ d, isAsciiDigit d = true ∧ [d, '.', ' '] <:+: s

/-- A full stop right after a digit, with `follows` of what comes next; `afterDigit` tells whether
the character before the text is a digit. -/
def stopFrom (follows : List Char → Bool) (afterDigit : Bool) : List Char → Bool
  | [] => false
  | c :: rest =>
    (c == '.' && afterDigit && follows rest) || stopFrom follows (isAsciiDigit c) rest

/-- The text begins with a space. -/
def startsWithSpace (s : List Char) : Bool :=
  s.head? == some ' '

/-- The text begins with a character that satisfies `p`, and not all that follows is blank. -/
def gapThenInk (p : Char → Bool) : List Char → Bool
  | [] => false
  | w :: after => p w && !isBlank after

variable {follows : List Char → Bool} {p : Char → Bool} {s : List Char}

/-! ## Looking for full stops

The search reads a text once, with one bit for the character before. What it asks of the rest of
the text is a parameter, so that the same lemmas serve a space, any white space, and white space
with something to print after it. -/

/-- Only a full stop can be found; of any other character all that matters is whether it is a
digit. -/
theorem stopFrom_cons_of_ne {c : Char} (hc : c ≠ '.') (afterDigit : Bool) (s : List Char) :
    stopFrom follows afterDigit (c :: s) = stopFrom follows (isAsciiDigit c) s := by
  rw [stopFrom, beq_eq_false_iff_ne.2 hc]
  rfl

/-- What follows matters only after a full stop that a digit stands before. -/
theorem stop_congr {c : Char} {afterDigit x y : Bool} (h : c = '.' → afterDigit = true → x = y) :
    (c == '.' && afterDigit && x) = (c == '.' && afterDigit && y) := by
  by_cases hc : c = '.' ∧ afterDigit = true
  · rw [h hc.1 hc.2]
  · have hfalse : (c == '.' && afterDigit) = false := by simpa using hc
    rw [hfalse, Bool.false_and, Bool.false_and]

/-- What the search finds, at the front or with a digit before it. -/
theorem stopFrom_iff : ∀ {afterDigit : Bool}, stopFrom follows afterDigit s = true ↔
    (afterDigit = true ∧ ∃ rest, s = '.' :: rest ∧ follows rest = true) ∨
      ∃ before d rest, s = before ++ d :: '.' :: rest ∧ isAsciiDigit d = true ∧
        follows rest = true := by
  induction s with
  | nil => simp [stopFrom]
  | cons c s ih =>
    intro afterDigit
    rw [stopFrom, Bool.or_eq_true, ih, Bool.and_eq_true, Bool.and_eq_true, beq_iff_eq]
    constructor
    · rintro (⟨⟨rfl, hdigit⟩, hrest⟩ | ⟨hc, rest, rfl, hrest⟩ | ⟨before, d, rest, rfl, hd, hrest⟩)
      · exact Or.inl ⟨hdigit, s, rfl, hrest⟩
      · exact Or.inr ⟨[], c, rest, rfl, hc, hrest⟩
      · exact Or.inr ⟨c :: before, d, rest, rfl, hd, hrest⟩
    · rintro (⟨hdigit, rest, heq, hrest⟩ | ⟨before, d, rest, heq, hd, hrest⟩)
      · obtain ⟨rfl, rfl⟩ := List.cons.inj heq
        exact Or.inl ⟨⟨rfl, hdigit⟩, hrest⟩
      · right
        cases before with
        | nil =>
          obtain ⟨rfl, rfl⟩ := List.cons.inj heq
          exact Or.inl ⟨hd, rest, rfl, hrest⟩
        | cons b before =>
          obtain ⟨rfl, rfl⟩ := List.cons.inj heq
          exact Or.inr ⟨before, d, rest, rfl, hd, hrest⟩

/-- With no digit before the text, the digit is one of its own. -/
theorem stopFrom_false_iff : stopFrom follows false s = true ↔
    ∃ before d rest, s = before ++ d :: '.' :: rest ∧ isAsciiDigit d = true ∧
      follows rest = true := by
  rw [stopFrom_iff]
  simp

/-- A marker is a stop that a space follows, and so it can be searched for. -/
theorem hasListMarker_iff : HasListMarker s ↔ stopFrom startsWithSpace false s = true := by
  rw [stopFrom_false_iff]
  constructor
  · rintro ⟨d, hd, before, after, rfl⟩
    exact ⟨before, d, ' ' :: after, by simp, hd, rfl⟩
  · rintro ⟨before, d, rest, rfl, hd, hrest⟩
    cases rest with
    | nil => cases hrest
    | cons w after =>
      obtain rfl : w = ' ' := Option.some.inj (beq_iff_eq.1 hrest)
      exact ⟨d, hd, before, after, by simp⟩

instance (s : List Char) : Decidable (HasListMarker s) :=
  decidable_of_iff _ hasListMarker_iff.symm

/-! ## Escaping

A backslash comes before the full stop, so that the digit is no longer right before it. Only a
stop that a space follows is escaped, and any other is found after escaping as it was before. -/

/-- The same test as in the search, with a backslash where the search would end. -/
theorem escapeMarkersFrom_cons (afterDigit : Bool) (c : Char) (rest : List Char) :
    escapeMarkersFrom afterDigit (c :: rest) =
      if (c == '.' && afterDigit && startsWithSpace rest) = true then
        '\\' :: c :: escapeMarkersFrom (isAsciiDigit c) rest
      else c :: escapeMarkersFrom (isAsciiDigit c) rest :=
  rfl

/-- A backslash makes the text longer, so a text that is the same had nothing to escape. -/
theorem escapeMarkersFrom_eq_self_iff (s : List Char) : ∀ afterDigit,
    escapeMarkersFrom afterDigit s = s ↔ stopFrom startsWithSpace afterDigit s = false := by
  induction s with
  | nil => simp [escapeMarkersFrom, stopFrom]
  | cons c s ih =>
    intro afterDigit
    rw [escapeMarkersFrom_cons, stopFrom]
    split
    · rename_i hescape
      obtain ⟨⟨rfl, -⟩, -⟩ : (c = '.' ∧ _) ∧ _ := by simpa using hescape
      rw [hescape, Bool.true_or]
      simp
    · rename_i hescape
      rw [Bool.not_eq_true] at hescape
      rw [hescape, Bool.false_or, List.cons_inj_right, ih]

/-- **Escaping changes a text just if there is a marker in it.** Both are the search for a stop
before a space. -/
theorem escapeListMarkers_eq_self_iff (s : List Char) :
    escapeListMarkers s = s ↔ ¬ HasListMarker s := by
  rw [escapeListMarkers, escapeMarkersFrom_eq_self_iff, hasListMarker_iff, Bool.not_eq_true]

/-- A character that comes right after no digit is not escaped. -/
theorem escapeMarkersFrom_false_cons (c : Char) (s : List Char) :
    escapeMarkersFrom false (c :: s) = c :: escapeMarkersFrom (isAsciiDigit c) s := by
  rw [escapeMarkersFrom_cons, Bool.and_false, Bool.false_and, if_neg Bool.false_ne_true]

/-- Escaping adds backslashes and no other character. -/
theorem mem_escapeMarkersFrom {d : Char} {s : List Char} :
    ∀ {afterDigit : Bool}, d ∈ escapeMarkersFrom afterDigit s → d = '\\' ∨ d ∈ s := by
  induction s with
  | nil => exact fun hd => Or.inr hd
  | cons c s ih =>
    intro afterDigit hd
    have rest : d ∈ c :: escapeMarkersFrom (isAsciiDigit c) s → d = '\\' ∨ d ∈ c :: s := by
      intro hd
      rcases List.mem_cons.1 hd with rfl | hd
      · exact Or.inr List.mem_cons_self
      · exact (ih hd).imp_right (List.mem_cons_of_mem c)
    rw [escapeMarkersFrom_cons] at hd
    split at hd
    · exact (List.mem_cons.1 hd).elim Or.inl rest
    · exact rest hd

/-- Escaping adds nothing but backslashes. -/
theorem not_mem_escapeListMarkers {d : Char} (hd : d ≠ '\\') (hs : d ∉ s) :
    d ∉ escapeListMarkers s :=
  fun h => (mem_escapeMarkersFrom h).elim hd hs

/-- What follows another character than a space or a full stop is escaped on its own. -/
theorem escapeMarkersFrom_append_cons {c : Char} (hspace : c ≠ ' ') (hstop : c ≠ '.')
    (s rest : List Char) : ∀ afterDigit, escapeMarkersFrom afterDigit (s ++ c :: rest) =
      escapeMarkersFrom afterDigit s ++ c :: escapeMarkersFrom (isAsciiDigit c) rest := by
  induction s with
  | nil =>
    intro afterDigit
    rw [List.nil_append, escapeMarkersFrom_cons, beq_eq_false_iff_ne.2 hstop]
    rfl
  | cons d s ih =>
    intro afterDigit
    have before : startsWithSpace (s ++ c :: rest) = startsWithSpace s := by
      cases s with
      | nil => simpa [startsWithSpace] using hspace
      | cons e s => rfl
    rw [List.cons_append, escapeMarkersFrom_cons, before, ih, escapeMarkersFrom_cons]
    split <;> rfl

/-- What is escaped is no shorter. -/
theorem escapeListMarkers_eq_nil_iff : escapeListMarkers s = [] ↔ s = [] := by
  cases s with
  | nil => rfl
  | cons c s =>
    rw [escapeListMarkers, escapeMarkersFrom_false_cons]
    simp

theorem isBlank_cons (c : Char) (s : List Char) :
    isBlank (c :: s) = (isWhitespace c && isBlank s) :=
  rfl

/-- What is added stands beside a full stop, so blank texts stay as they are and others do not
become blank. -/
theorem isBlank_escapeMarkersFrom (s : List Char) :
    ∀ afterDigit, isBlank (escapeMarkersFrom afterDigit s) = isBlank s := by
  induction s with
  | nil => exact fun _ => rfl
  | cons c s ih =>
    intro afterDigit
    rw [escapeMarkersFrom_cons]
    split
    · rename_i hescape
      obtain ⟨⟨hc, -⟩, -⟩ : (c = '.' ∧ _) ∧ _ := by simpa using hescape
      have hsolid : isWhitespace '.' = false := by decide
      rw [isBlank_cons, isBlank_cons, isBlank_cons, hc, hsolid, Bool.false_and, Bool.false_and,
        Bool.and_false]
    · rw [isBlank_cons, isBlank_cons, ih]

/-- Of the full stops before white space, those before a space are escaped. -/
theorem stopFrom_escapeMarkersFrom (s : List Char) : ∀ afterDigit,
    stopFrom (gapThenInk p) afterDigit (escapeMarkersFrom afterDigit s) =
      stopFrom (gapThenInk fun w => p w && w != ' ') afterDigit s := by
  have digit : isAsciiDigit '.' = false ∧ isAsciiDigit '\\' = false := by decide
  induction s with
  | nil => exact fun _ => rfl
  | cons c s ih =>
    intro afterDigit
    rw [escapeMarkersFrom_cons]
    split
    · rename_i hescape
      obtain ⟨⟨rfl, -⟩, hspace⟩ : (c = '.' ∧ _) ∧ _ := by simpa using hescape
      -- the stop that is escaped has a space after it, so it is none of those that count
      have none_here : gapThenInk (fun w => p w && w != ' ') s = false := by
        cases s with
        | nil => rfl
        | cons w after =>
          obtain rfl : w = ' ' := Option.some.inj (beq_iff_eq.1 hspace)
          simp [gapThenInk]
      rw [stopFrom_cons_of_ne (by decide), digit.2, stopFrom, Bool.and_false, Bool.false_and,
        Bool.false_or, digit.1, ih false, stopFrom, none_here, Bool.and_false, Bool.false_or,
        digit.1]
    · rename_i hescape
      rw [stopFrom, stopFrom, ih]
      refine congrArg (· || _) (stop_congr fun hc hdigit => ?_)
      rw [hc, digit.1]
      cases s with
      | nil => rfl
      | cons w after =>
        -- a stop that was left has other white space after it, or none
        have hw : w ≠ ' ' := by
          rintro rfl
          rw [hc, hdigit] at hescape
          exact hescape rfl
        rw [escapeMarkersFrom_false_cons, gapThenInk, gapThenInk, isBlank_escapeMarkersFrom,
          bne_iff_ne.2 hw, Bool.and_true]

/-! ## White space

Collapsing makes any run of white space a space, and trimming takes it from the ends. In either
case the search finds what it has found, when it was asked for the right thing. -/

/-- White space is no digit and no full stop. -/
theorem isAsciiDigit_of_isWhitespace {c : Char} (hc : isWhitespace c = true) :
    isAsciiDigit c = false ∧ c ≠ '.' := by
  constructor
  · by_contra hdigit
    rw [Bool.not_eq_false, isAsciiDigit, Bool.and_eq_true, decide_eq_true_iff,
      decide_eq_true_iff] at hdigit
    have hlow : 48 ≤ c.toNat := hdigit.1
    have hhigh : c.toNat ≤ 57 := hdigit.2
    simp only [isWhitespace, Bool.or_eq_true, Bool.and_eq_true, decide_eq_true_iff, beq_iff_eq]
      at hc
    omega
  · rintro rfl
    exact absurd hc (by decide)

/-- White space is passed, and what comes after it has no digit before it. -/
theorem stopFrom_cons_of_white {c : Char} (hc : isWhitespace c = true) (afterDigit : Bool)
    (s : List Char) : stopFrom follows afterDigit (c :: s) = stopFrom follows false s := by
  obtain ⟨hdigit, hne⟩ := isAsciiDigit_of_isWhitespace hc
  rw [stopFrom_cons_of_ne hne, hdigit]

/-- A run gets shorter by collapsing, or is a space instead; blank is what was blank. -/
theorem isBlank_collapseFrom (s : List Char) :
    ∀ afterSpace, isBlank (collapseFrom afterSpace s) = isBlank s := by
  have space : isWhitespace ' ' = true := by decide
  induction s with
  | nil => exact fun _ => rfl
  | cons c s ih =>
    intro afterSpace
    rw [collapseFrom]
    split
    · rename_i hc
      rw [isBlank_cons c, isWhitespace_of_isCollapsible hc, Bool.true_and]
      split
      · exact ih true
      · rw [isBlank_cons, space, Bool.true_and, ih]
    · rw [isBlank_cons, isBlank_cons, ih]

/-- Whatever white space follows a full stop, a space follows it when runs are collapsed. -/
theorem stopFrom_collapseFrom (s : List Char) :
    stopFrom (gapThenInk (· == ' ')) false (collapseFrom true s) =
        stopFrom (gapThenInk isCollapsible) false s ∧
      ∀ afterDigit, stopFrom (gapThenInk (· == ' ')) afterDigit (collapseFrom false s) =
        stopFrom (gapThenInk isCollapsible) afterDigit s := by
  have space : isWhitespace ' ' = true := by decide
  induction s with
  | nil => exact ⟨rfl, fun _ => rfl⟩
  | cons c s ih =>
    -- what was read before is white space or not, and each is needed for the other
    obtain ⟨after, apart⟩ := ih
    cases hc : isCollapsible c with
    | true =>
      have hwhite := isWhitespace_of_isCollapsible hc
      rw [collapseFrom, if_pos hc, if_pos rfl, stopFrom_cons_of_white hwhite]
      refine ⟨after, fun afterDigit => ?_⟩
      rw [collapseFrom, if_pos hc, if_neg Bool.false_ne_true, stopFrom_cons_of_white space,
        stopFrom_cons_of_white hwhite, after]
    | false =>
      have both (afterDigit : Bool) :
          stopFrom (gapThenInk (· == ' ')) afterDigit (c :: collapseFrom false s) =
            stopFrom (gapThenInk isCollapsible) afterDigit (c :: s) := by
        rw [stopFrom, stopFrom, apart]
        refine congrArg (· || _) (stop_congr fun _ _ => ?_)
        cases s with
        | nil => rfl
        | cons w after =>
          rw [collapseFrom]
          cases hw : isCollapsible w with
          | true => simp [gapThenInk, hw, isBlank_collapseFrom]
          | false =>
            have hne : w ≠ ' ' := by
              rintro rfl
              exact absurd hw (by decide)
            simp [gapThenInk, hw, hne]
      rw [collapseFrom, hc, if_neg Bool.false_ne_true]
      refine ⟨both false, fun afterDigit => ?_⟩
      rw [collapseFrom, hc, if_neg Bool.false_ne_true, both]

/-- What is trimmed at the start is white space, and no stop begins with that. -/
theorem stopFrom_trimStartWhile {q : Char → Bool} (hq : ∀ c, q c = true → isWhitespace c = true)
    (s : List Char) : stopFrom follows false (trimStartWhile q s) = stopFrom follows false s := by
  induction s with
  | nil => rfl
  | cons c s ih =>
    rw [trimStartWhile, List.dropWhile_cons]
    split
    · rename_i hc
      rw [stopFrom_cons_of_white (hq c hc)]
      exact ih
    · rfl

theorem isBlank_append (s s' : List Char) : isBlank (s ++ s') = (isBlank s && isBlank s') :=
  List.all_append

/-- Nothing is found in white space at the end. -/
theorem stopFrom_append_of_isBlank {white : List Char} (hwhite : isBlank white = true)
    (s : List Char) : ∀ afterDigit,
      stopFrom (gapThenInk p) afterDigit (s ++ white) = stopFrom (gapThenInk p) afterDigit s := by
  induction s with
  | nil =>
    rw [List.nil_append]
    induction white with
    | nil => exact fun _ => rfl
    | cons c white ih =>
      intro afterDigit
      obtain ⟨hc, hrest⟩ := Bool.and_eq_true_iff.1 hwhite
      rw [stopFrom_cons_of_white hc, ih hrest]
      rfl
  | cons c s ih =>
    intro afterDigit
    rw [List.cons_append, stopFrom, stopFrom, ih]
    refine congrArg (· || _) (stop_congr fun _ _ => ?_)
    cases s with
    | nil =>
      cases white with
      | nil => rfl
      | cons w white =>
        have hrest := (Bool.and_eq_true_iff.1 hwhite).2
        simp only [List.nil_append, gapThenInk]
        rw [show isBlank white = true from hrest, Bool.not_true, Bool.and_false]
    | cons w after => rw [List.cons_append, gapThenInk, gapThenInk, isBlank_append, hwhite,
        Bool.and_true]

/-- At the end a space is lost, but only one with nothing to print after it, which does not
count. -/
theorem stopFrom_trimEndWhile {q : Char → Bool} (hq : ∀ c, q c = true → isWhitespace c = true)
    (s : List Char) (afterDigit : Bool) :
    stopFrom (gapThenInk p) afterDigit (trimEndWhile q s) =
      stopFrom (gapThenInk p) afterDigit s := by
  have white : isBlank (s.reverse.takeWhile q).reverse = true := by
    refine List.all_eq_true.2 fun c hc => hq c ?_
    exact List.all_eq_true.1 (List.all_takeWhile ..) c (List.mem_reverse.1 hc)
  conv_rhs => rw [← trimEndWhile_append q s]
  rw [stopFrom_append_of_isBlank white]

/-- In a text that does not end with white space, something follows each space. -/
theorem stopFrom_startsWithSpace (s : List Char) : ∀ afterDigit,
    (∀ c ∈ s.getLast?, isWhitespace c = false) →
      stopFrom startsWithSpace afterDigit s = stopFrom (gapThenInk (· == ' ')) afterDigit s := by
  induction s with
  | nil => exact fun _ _ => rfl
  | cons c s ih =>
    intro afterDigit hlast
    have hrest : ∀ c ∈ s.getLast?, isWhitespace c = false := by
      intro d hd
      cases s with
      | nil => cases hd
      | cons w after => exact hlast d hd
    rw [stopFrom, stopFrom, ih _ hrest]
    refine congrArg (· || _) (stop_congr fun _ _ => ?_)
    cases s with
    | nil => rfl
    | cons w after =>
      rw [gapThenInk]
      cases hw : w == ' ' with
      | false => simpa [startsWithSpace] using hw
      | true =>
        obtain rfl : w = ' ' := beq_iff_eq.1 hw
        obtain ⟨d, hd⟩ := Option.ne_none_iff_exists'.1
          (mt List.getLast?_eq_none_iff.1 (List.cons_ne_nil ' ' after))
        have hsolid := hrest d hd
        have hmem : d ∈ ' ' :: after := List.mem_of_getLast? hd
        -- the last character is printed, so what follows this space is not blank
        have hblank : isBlank after = false := by
          by_contra h
          rw [Bool.not_eq_false] at h
          rcases List.mem_cons.1 hmem with rfl | hmem
          · exact absurd hsolid (by decide)
          · rw [List.all_eq_true.1 h d hmem] at hsolid
            cases hsolid
        rw [hblank]
        rfl

/-! ## A text on its own

All steps from a text to its Markdown, one after the other. -/

/-- What normalization leaves of a text that stands alone in a document. -/
def shown (s : List Char) : List Char :=
  collapseWhitespace (trimEndWhile isCollapsible (trimStartWhile isCollapsible s))

/-- Line feeds collapse like all white space, so the text is on one line. -/
theorem newline_not_mem_collapseFrom (s : List Char) :
    ∀ afterSpace, '\n' ∉ collapseFrom afterSpace s := by
  have newline : isCollapsible '\n' = true := by decide
  induction s with
  | nil => exact fun _ => List.not_mem_nil
  | cons c s ih =>
    intro afterSpace
    rw [collapseFrom]
    split
    · split
      · exact ih true
      · exact List.not_mem_cons_of_ne_of_not_mem (by decide) (ih true)
    · rename_i hc
      refine List.not_mem_cons_of_ne_of_not_mem ?_ (ih false)
      rintro rfl
      exact hc newline

/-- On one line the final form has nothing to do but trim. -/
theorem tidy_shown (s : List Char) :
    tidy (shown s) = trimEndWhile isWhitespace
      (trimStartWhile (fun c => c == '\t' || c == '\r' || c == '\n') (shown s)) :=
  tidy_of_not_mem (newline_not_mem_collapseFrom _ false)

/-- All white space but the no-break space is a space in the end. -/
theorem stopFrom_tidy_shown (s : List Char) :
    stopFrom (gapThenInk (· == ' ')) false (tidy (shown s)) =
      stopFrom (gapThenInk isCollapsible) false s := by
  have white : ∀ c : Char,
      (c == '\t' || c == '\r' || c == '\n') = true → isWhitespace c = true := by
    simp only [Bool.or_eq_true, beq_iff_eq]
    rintro c ((rfl | rfl) | rfl) <;> decide
  have collapsible := fun c => isWhitespace_of_isCollapsible (c := c)
  rw [tidy_shown, stopFrom_trimEndWhile fun _ hc => hc, stopFrom_trimStartWhile white, shown,
    collapseWhitespace, (stopFrom_collapseFrom _).2, stopFrom_trimEndWhile collapsible,
    stopFrom_trimStartWhile collapsible]

/-- **Which markers are left.** A text on its own is escaped, normalized and put into its final
form. Then there is a marker in it just if somewhere a digit and a full stop stood before white
space other than a space, with something to print after that. -/
theorem hasListMarker_tidy_shown_iff (s : List Char) :
    HasListMarker (tidy (shown (escapeListMarkers s))) ↔
      ∃ before d w after, s = before ++ d :: '.' :: w :: after ∧ isAsciiDigit d = true ∧
        isCollapsible w = true ∧ w ≠ ' ' ∧ isBlank after = false := by
  have solid : ∀ c ∈ (tidy (shown (escapeListMarkers s))).getLast?, isWhitespace c = false := by
    rw [tidy_shown]
    exact fun c hc => getLast?_trimEndWhile hc
  rw [hasListMarker_iff, stopFrom_startsWithSpace _ _ solid, stopFrom_tidy_shown, escapeListMarkers,
    stopFrom_escapeMarkersFrom, stopFrom_false_iff]
  constructor
  · rintro ⟨before, d, rest, rfl, hd, hrest⟩
    cases rest with
    | nil => cases hrest
    | cons w after =>
      simp only [gapThenInk, Bool.and_eq_true, bne_iff_ne, Bool.not_eq_true'] at hrest
      exact ⟨before, d, w, after, rfl, hd, hrest.1.1, hrest.1.2, hrest.2⟩
  · rintro ⟨before, d, w, after, rfl, hd, hw, hne, hafter⟩
    refine ⟨before, d, w :: after, rfl, hd, ?_⟩
    rw [gapThenInk, hw, bne_iff_ne.2 hne, hafter]
    rfl

end Tagdown.Text
