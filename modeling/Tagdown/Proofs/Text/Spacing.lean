import Mathlib.Data.List.Forall2
import Mathlib.Data.List.ReduceOption
import Tagdown.Proofs.Normalize.Pieces
import Tagdown.Proofs.Text.Words

/-!
# White space between characters

The space between two characters that are no white space is what stands between them in the text,
and may be nothing (`between`). `Spaces m s` says that a text `s` has the characters of the marks
`m`, and that no space in it comes of nothing. A mark `none` is something that has no character but
becomes a space, and this is the only place where there is white space that was not there before
(`Spaces.keepsTogether_iff`).

The relation can be put together from parts in any way (`Spaces.append`), since both ends of a part
are held to the same condition as what is between two characters.
-/

namespace Tagdown.Text

/-! ## What stands between -/

/-- What stands between each member with the property and the next one. -/
def between {α : Type} (p : α → Bool) (l : List α) : List (List α) :=
  (l.splitOnP p).tail.dropLast

/-- A character that is no white space. -/
def Mark.isSolid : Mark → Bool
  | none => false
  | some c => Tagdown.isSolid c

/-- Between two characters there is something without characters, and nothing else. -/
def HasHole (m : List Mark) : Prop :=
  ∃ g ∈ between Mark.isSolid m, g ≠ [] ∧ ∀ b ∈ g, b = none

instance (m : List Mark) : Decidable (HasHole m) :=
  inferInstanceAs (Decidable (∃ g ∈ between Mark.isSolid m, g ≠ [] ∧ ∀ b ∈ g, b = none))

/-- Where there was nothing between two characters, there still is nothing. -/
def KeepsTogether (s s' : List Char) : Prop :=
  List.Forall₂ (fun g g' => g = [] → g' = []) (between isSolid s) (between isSolid s')

instance (s s' : List Char) : Decidable (KeepsTogether s s') :=
  inferInstanceAs (Decidable (List.Forall₂ (fun g g' => g = [] → g' = []) _ _))

theorem mem_of_mem_splitOnP {α : Type} {p : α → Bool} {l g : List α} {b : α}
    (hg : g ∈ l.splitOnP p) (hb : b ∈ g) : b ∈ l := by
  induction l generalizing g with
  | nil =>
    obtain rfl : g = [] := by simpa using hg
    cases hb
  | cons c l ih =>
    obtain ⟨first, others, hsplit⟩ := List.exists_cons_of_ne_nil (List.splitOnP_ne_nil p l)
    rw [List.splitOnP_cons_eq_if_modifyHead, hsplit, List.modifyHead_cons] at hg
    rw [hsplit] at ih
    split at hg
    · rcases List.mem_cons.1 hg with rfl | hg
      · cases hb
      · exact List.mem_cons_of_mem c (ih hg hb)
    · rcases List.mem_cons.1 hg with rfl | hg
      · rcases List.mem_cons.1 hb with rfl | hb
        · exact List.mem_cons_self
        · exact List.mem_cons_of_mem c (ih List.mem_cons_self hb)
      · exact List.mem_cons_of_mem c (ih (List.mem_cons_of_mem first hg) hb)

/-- A hole has a mark. -/
theorem not_hasHole_of_not_mem {m : List Mark} (hm : none ∉ m) : ¬ HasHole m := by
  rintro ⟨g, hg, hne, hall⟩
  obtain ⟨b, rest, rfl⟩ := List.exists_cons_of_ne_nil hne
  obtain rfl := hall b List.mem_cons_self
  exact hm (mem_of_mem_splitOnP (List.mem_of_mem_tail (List.mem_of_mem_dropLast hg))
    List.mem_cons_self)

/-- White space may become any other, but nothing comes of nothing, and what has no characters does
become something if it stands alone. -/
structure Settles (g : List Mark) (g' : List Char) : Prop where
  of_nil : g = [] → g' = []
  of_none : g ≠ [] → (∀ b ∈ g, b = none) → g' ≠ []

/-- The characters that are no white space are the same, and what stands before, between and after
them settles. -/
inductive Spaces : List Mark → List Char → Prop where
  | gap {g : List Mark} {g' : List Char} (hg : ∀ b ∈ g, b.isSolid = false)
    (hg' : ∀ c ∈ g', isSolid c = false) (settles : Settles g g') : Spaces g g'
  | solid {g m : List Mark} {g' s : List Char} {c : Char} (hg : ∀ b ∈ g, b.isSolid = false)
    (hg' : ∀ c ∈ g', isSolid c = false) (settles : Settles g g') (hc : isSolid c = true)
    (rest : Spaces m s) : Spaces (g ++ some c :: m) (g' ++ c :: s)

variable {m m' g h : List Mark} {s s' g' h' w : List Char}

/-- Nothing settles as nothing. -/
theorem Settles.nil : Settles [] [] :=
  ⟨fun _ => rfl, fun hne => absurd rfl hne⟩

/-- Two stretches that settle do so together. -/
theorem Settles.append (first : Settles g g') (second : Settles h h') :
    Settles (g ++ h) (g' ++ h') where
  of_nil hnil := by
    obtain ⟨hg, hh⟩ := List.append_eq_nil_iff.1 hnil
    rw [first.of_nil hg, second.of_nil hh]
    rfl
  of_none hne hall := by
    obtain ⟨hg, hh⟩ := List.forall_mem_append.1 hall
    intro hnil
    obtain ⟨hg', hh'⟩ := List.append_eq_nil_iff.1 hnil
    by_cases hgnil : g = []
    · refine second.of_none (fun hhnil => hne ?_) hh hh'
      rw [hgnil, hhnil]
      rfl
    · exact first.of_none hgnil hg hg'

namespace Spaces

theorem nil : Spaces [] [] :=
  .gap (List.forall_mem_nil _) (List.forall_mem_nil _) .nil

/-- **Part by part.** What stands at the end of the first part and at the beginning of the second
one is a single stretch then. -/
theorem append (first : Spaces m s) (second : Spaces m' s') : Spaces (m ++ m') (s ++ s') := by
  induction first with
  | gap hg hg' settles =>
    cases second with
    | gap hh hh' settles' =>
      exact .gap (List.forall_mem_append.2 ⟨hg, hh⟩) (List.forall_mem_append.2 ⟨hg', hh'⟩)
        (settles.append settles')
    | solid hh hh' settles' hc rest =>
      rw [← List.append_assoc, ← List.append_assoc]
      exact .solid (List.forall_mem_append.2 ⟨hg, hh⟩) (List.forall_mem_append.2 ⟨hg', hh'⟩)
        (settles.append settles') hc rest
  | solid hg hg' settles hc _ ih =>
    rw [List.append_assoc, List.append_assoc]
    exact .solid hg hg' settles hc ih

/-- White space that there is may become anything. -/
theorem white (hs : s.all isCollapsible = true) (hne : s ≠ []) (hw : w.all isCollapsible = true) :
    Spaces (marks s) w := by
  have loose {s : List Char} (hs : s.all isCollapsible = true) : ∀ c ∈ s, isSolid c = false := by
    intro c hc
    rw [isSolid, List.all_eq_true.1 hs c hc]
    rfl
  refine .gap (fun b hb => ?_) (loose hw) ⟨fun hnil => ?_, fun _ hall => ?_⟩
  · obtain ⟨c, hc, rfl⟩ := List.mem_map.1 hb
    exact loose hs c hc
  · exact absurd (List.map_eq_nil_iff.1 hnil) hne
  · obtain ⟨c, rest, rfl⟩ := List.exists_cons_of_ne_nil hne
    cases hall (some c) List.mem_cons_self

/-- White space may go. -/
theorem dropped (hs : s.all isCollapsible = true) : Spaces (marks s) [] := by
  cases s with
  | nil => exact nil
  | cons c s => exact white hs (List.cons_ne_nil c s) rfl

/-- A character that is no white space stays as it is. -/
theorem char {c : Char} (hc : isSolid c = true) : Spaces [some c] [c] :=
  .solid (List.forall_mem_nil _) (List.forall_mem_nil _) .nil hc nil

/-- What has no character becomes a space. -/
theorem hole : Spaces [none] [' '] :=
  .gap (List.forall_mem_singleton.2 rfl) (List.forall_mem_singleton.2 (by decide))
    ⟨fun hnil => absurd hnil (List.cons_ne_nil _ _), fun _ _ => List.cons_ne_nil _ _⟩

/-- Collapsing is a way of spacing a text, with white space where white space was. -/
theorem collapseFrom (s : List Char) :
    ∀ afterSpace, Spaces (marks s) (Tagdown.collapseFrom afterSpace s) := by
  induction s with
  | nil => exact fun _ => nil
  | cons c s ih =>
    intro afterSpace
    rw [Tagdown.collapseFrom]
    split
    · rename_i hc
      have one : [c].all isCollapsible = true := by simp [hc]
      split
      · exact (dropped one).append (ih true)
      · exact (white one (List.cons_ne_nil c []) (w := [' ']) rfl).append (ih true)
    · rename_i hc
      exact (char (by simp [isSolid, hc])).append (ih false)

/-- So is leaving it as it is. -/
theorem refl (s : List Char) : Spaces (marks s) s := by
  induction s with
  | nil => exact nil
  | cons c s ih =>
    cases hc : isCollapsible c with
    | true =>
      have one : [c].all isCollapsible = true := by simp [hc]
      exact (white one (List.cons_ne_nil c []) one).append ih
    | false => exact (char (by simp [isSolid, hc])).append ih

/-! ## What the relation says -/

/-- The other characters are the same, and in the same order. -/
theorem filter_eq (h : Spaces m s) : s.filter isSolid = m.reduceOption.filter isSolid := by
  have none_left {g : List Mark} (hg : ∀ b ∈ g, b.isSolid = false) :
      g.reduceOption.filter isSolid = [] := by
    refine List.filter_eq_nil_iff.2 fun c hc => ?_
    simpa [Mark.isSolid] using hg (some c) (List.reduceOption_mem_iff.1 hc)
  induction h with
  | gap hg hg' _ => rw [none_left hg, List.filter_eq_nil_iff.2 (by simpa using hg')]
  | solid hg hg' _ hc _ ih =>
    rw [List.reduceOption_append, List.filter_append, List.filter_append, none_left hg,
      List.filter_eq_nil_iff.2 (by simpa using hg'), List.reduceOption_cons_of_some,
      List.filter_cons_of_pos hc, List.filter_cons_of_pos hc, ih]

/-- Cut at these characters, the marks and the text have stretches that settle one by one. -/
theorem forall₂_splitOnP (h : Spaces m s) :
    List.Forall₂ Settles (m.splitOnP Mark.isSolid) (s.splitOnP isSolid) := by
  induction h with
  | gap hg hg' settles =>
    rw [List.splitOnP_eq_singleton hg, List.splitOnP_eq_singleton hg']
    exact .cons settles .nil
  | @solid g m g' s c hg hg' settles hc _ ih =>
    have hc' : Mark.isSolid (some c) = true := hc
    rw [List.splitOnP_append_cons_of_forall_mem hg _ hc',
      List.splitOnP_append_cons_of_forall_mem hg' _ hc]
    exact .cons settles ih

end Spaces

/-- What holds of all stretches holds of those between two characters, which are all but the first
and the last. -/
theorem forall₂_between {α β : Type} {R : List α → List β → Prop} {p : α → Bool} {q : β → Bool}
    {l : List α} {l' : List β} (h : List.Forall₂ R (l.splitOnP p) (l'.splitOnP q)) :
    List.Forall₂ R (between p l) (between q l') := by
  have inner := List.forall₂_drop 1 h
  rw [List.drop_one, List.drop_one] at inner
  rw [between, between, List.dropLast_eq_take, List.dropLast_eq_take, ← inner.length_eq]
  exact List.forall₂_take _ inner

/-- To leave out what has no characters does not move those that there are. -/
theorem between_reduceOption (m : List Mark) :
    between isSolid m.reduceOption = (between Mark.isSolid m).map List.reduceOption := by
  have split : m.reduceOption.splitOnP isSolid =
      (m.splitOnP Mark.isSolid).map List.reduceOption := by
    induction m with
    | nil => rfl
    | cons b m ih =>
      obtain ⟨g, gs, hsplit⟩ := List.exists_cons_of_ne_nil (List.splitOnP_ne_nil Mark.isSolid m)
      cases b with
      | none =>
        rw [List.reduceOption_cons_of_none, ih, hsplit, List.splitOnP_cons_eq_if_modifyHead, hsplit]
        rfl
      | some c =>
        rw [List.reduceOption_cons_of_some, List.splitOnP_cons_eq_if_modifyHead, ih, hsplit,
          List.splitOnP_cons_eq_if_modifyHead, hsplit, Mark.isSolid]
        split <;> rfl
  rw [between, between, split, ← List.map_tail, List.map_dropLast]

/-- Marks without a character are holes. -/
theorem reduceOption_eq_nil_iff : g.reduceOption = [] ↔ ∀ b ∈ g, b = none := by
  induction g with
  | nil => simp
  | cons b g ih => cases b <;> simp [ih]

/-- **White space comes of holes only**: what stood together still does, just if nowhere between two
characters there is a hole and nothing else. The stretches between the characters are compared one
by one. -/
theorem Spaces.keepsTogether_iff (h : Spaces m s) :
    KeepsTogether m.reduceOption s ↔ ¬ HasHole m := by
  have settles := forall₂_between h.forall₂_splitOnP
  rw [KeepsTogether, between_reduceOption, HasHole]
  generalize between Mark.isSolid m = gs at settles
  generalize between isSolid s = gs' at settles
  induction settles with
  | nil => simp
  | @cons g g' gs gs' hg _ ih =>
    rw [List.map_cons, List.forall₂_cons, List.exists_mem_cons_iff, not_or,
      reduceOption_eq_nil_iff]
    refine and_congr ?_ ih
    constructor
    · exact fun kept hhole => hg.of_none hhole.1 hhole.2 (kept hhole.2)
    · intro hnot hall
      refine hg.of_nil ?_
      by_contra hne
      exact hnot ⟨hne, hall⟩

end Tagdown.Text
