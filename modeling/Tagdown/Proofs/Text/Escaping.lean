import Tagdown.Proofs.Text.ListMarkers

/-!
# Where backslashes are put

`escapeListMarkers` goes through a text once, with the character before and the character after in
view. What it does can be said without going through anything: there are some full stops that stand
between a digit and a space (`markerStops`), and each of them gets a backslash before it, which is
all that changes (`escapeListMarkers_inserts`). After that no full stop stands between a digit and
a space any more, so that a second run finds nothing to do.

The scan sees only the rest of the text and whether it comes after a digit. So the positions are
counted from the beginning of `before ++ s`, where `before` is what the scan has left behind.
-/

namespace Tagdown.Text

/-- A full stop stands at position `i`, with a digit right before it and a space right after it. -/
def IsMarkerStop (s : List Char) (i : Nat) : Prop :=
  0 < i ∧ s[i - 1]?.any isAsciiDigit = true ∧ s[i]? = some '.' ∧ s[i + 1]? = some ' '

instance (s : List Char) (i : Nat) : Decidable (IsMarkerStop s i) :=
  inferInstanceAs (Decidable (_ ∧ _ ∧ _ ∧ _))

/-- The positions of all such full stops, in ascending order. -/
def markerStops (s : List Char) : List Nat :=
  (List.range s.length).filter fun i => IsMarkerStop s i

/-- Put `c` before each of the characters at some ascending positions. The last comes first, so
that the other positions do not shift. -/
def insertAll (c : Char) (positions : List Nat) (s : List Char) : List Char :=
  positions.foldr (fun i s => s.insertIdx i c) s

/-- Take out what was put before the characters at some ascending positions. The first goes first,
so that the others have come back to their positions when it is their turn. -/
def eraseAll (positions : List Nat) (s : List Char) : List Char :=
  positions.foldl List.eraseIdx s

/-- To take out again what was put in gives back the text. In both directions the positions are
those in the text as it was. -/
theorem eraseAll_insertAll (c : Char) (positions : List Nat) (s : List Char) :
    eraseAll positions (insertAll c positions s) = s := by
  induction positions with
  | nil => rfl
  | cons i positions ih =>
    rw [eraseAll, insertAll, List.foldr_cons, List.foldl_cons, List.eraseIdx_insertIdx_self]
    exact ih

/-- To put a character in at the end of the first part is to put it between the two parts. -/
theorem insertIdx_length (c : Char) (l r : List Char) :
    (l ++ r).insertIdx l.length c = l ++ c :: r := by
  induction l with
  | nil => rfl
  | cons d l ih =>
    rw [List.cons_append, List.length_cons, List.insertIdx_succ_cons, ih]
    rfl

/-! ## The positions of the scan -/

/-- What the scan looks at when it comes to a character. -/
theorem isMarkerStop_length_iff {before : List Char} {c : Char} {s : List Char} :
    IsMarkerStop (before ++ c :: s) before.length ↔
      (c == '.' && before.getLast?.any isAsciiDigit && startsWithSpace s) = true := by
  have here : (before ++ c :: s)[before.length]? = some c := by simp
  have next : (before ++ c :: s)[before.length + 1]? = s.head? := by
    rw [List.getElem?_append_right (Nat.le_succ _)]
    simp [List.head?_eq_getElem?]
  rw [IsMarkerStop, here, next, startsWithSpace]
  rcases List.eq_nil_or_concat before with rfl | ⟨before, d, rfl⟩
  · simp
  · have previous : (before ++ [d] ++ c :: s)[(before ++ [d]).length - 1]? = some d := by simp
    rw [List.concat_eq_append, previous, List.getLast?_concat]
    simp only [List.length_append, List.length_singleton, Nat.succ_pos, true_and, Option.any_some,
      Option.some.injEq, Bool.and_eq_true, beq_iff_eq]
    constructor
    · rintro ⟨hd, hc, hs⟩
      exact ⟨⟨hc, hd⟩, hs⟩
    · rintro ⟨⟨hc, hd⟩, hs⟩
      exact ⟨hd, hc, hs⟩

/-- What the scan makes of the rest of a text is what is inserted into the whole from there on. -/
theorem append_escapeMarkersFrom (s : List Char) : ∀ before : List Char,
    before ++ escapeMarkersFrom (before.getLast?.any isAsciiDigit) s =
      insertAll '\\' ((List.range' before.length s.length).filter fun i =>
        IsMarkerStop (before ++ s) i) (before ++ s) := by
  induction s with
  | nil =>
    intro before
    rfl
  | cons c s ih =>
    intro before
    have rest := ih (before ++ [c])
    rw [List.getLast?_concat, Option.any_some, List.length_append, List.length_singleton,
      List.append_assoc, List.append_assoc, List.singleton_append, List.singleton_append] at rest
    rw [escapeMarkersFrom_cons, List.length_cons, List.range'_succ, List.filter_cons]
    simp only [decide_eq_true_iff, isMarkerStop_length_iff]
    split
    · rw [insertAll, List.foldr_cons, ← insertAll, ← rest, insertIdx_length]
    · exact rest

/-! ## What is left to escape -/

/-- No marker is left behind the scan. -/
theorem stopFrom_startsWithSpace_escapeMarkersFrom (s : List Char) : ∀ afterDigit,
    stopFrom startsWithSpace afterDigit (escapeMarkersFrom afterDigit s) = false := by
  induction s with
  | nil => exact fun _ => rfl
  | cons c s ih =>
    intro afterDigit
    rw [escapeMarkersFrom_cons]
    split
    · rename_i hescape
      obtain ⟨⟨rfl, -⟩, -⟩ : (c = '.' ∧ _) ∧ _ := by simpa using hescape
      -- the backslash stands between the digit and the full stop now
      rw [stopFrom_cons_of_ne (by decide), stopFrom, ih]
      rfl
    · rename_i hescape
      rw [stopFrom, ih, Bool.or_false]
      by_contra hstop
      rw [Bool.not_eq_false, Bool.and_eq_true, Bool.and_eq_true, beq_iff_eq] at hstop
      obtain ⟨⟨rfl, hdigit⟩, hspace⟩ := hstop
      -- the full stop itself is no digit, so what follows it begins as it did
      have digit : isAsciiDigit '.' = false := by decide
      rw [digit] at hspace
      cases s with
      | nil => cases hspace
      | cons w s =>
        rw [escapeMarkersFrom_false_cons] at hspace
        refine hescape ?_
        rw [hdigit]
        exact hspace

/-- No marker is left, since the backslash stands between the digit and the full stop. -/
theorem not_hasListMarker_escapeListMarkers (s : List Char) :
    ¬ HasListMarker (escapeListMarkers s) := by
  rw [hasListMarker_iff, Bool.not_eq_true]
  exact stopFrom_startsWithSpace_escapeMarkersFrom s false

/-- **Backslashes go where they are needed**, and nowhere else: one before each full stop that
stands between a digit and a space. No such full stop is left, to take the backslashes out again
gives the text back, and a text that was escaped is left as it is. -/
theorem escapeListMarkers_inserts (s : List Char) :
    escapeListMarkers s = insertAll '\\' (markerStops s) s ∧
      ¬ HasListMarker (escapeListMarkers s) ∧
      eraseAll (markerStops s) (escapeListMarkers s) = s ∧
      escapeListMarkers (escapeListMarkers s) = escapeListMarkers s := by
  have inserted : escapeListMarkers s = insertAll '\\' (markerStops s) s := by
    rw [markerStops, List.range_eq_range']
    exact append_escapeMarkersFrom s []
  have clean := not_hasListMarker_escapeListMarkers s
  refine ⟨inserted, clean, ?_, (escapeListMarkers_eq_self_iff _).2 clean⟩
  rw [inserted, eraseAll_insertAll]

/-- A backslash that is there already keeps a full stop from being escaped, and so does a digit of
another script. -/
example : escapeListMarkers "10. a 2. 3\\. ٣. b".toList = "10\\. a 2\\. 3\\. ٣. b".toList := by
  decide +kernel

end Tagdown.Text
