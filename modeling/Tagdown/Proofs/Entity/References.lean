import Tagdown.Proofs.Entity.RoundTrip
import Tagdown.Proofs.Text.Words

/-!
# Texts with a reference in them

What is read of a text differs from the text just if there is a reference in it
(`decode_eq_self_iff`): an `&`, a name that stands for a character, and a semicolon. Any other `&`
stays as it is.

An `&` is where the reader begins anew (`decode_append_amp`), so a reference is read as one wherever
it stands (`decode_append_reference`), and what is read of it is one character in the place of three
or more. So there are fewer characters that are no white space in what is read of a text with a
reference (`HasReference.ink_decode_lt`).
-/

namespace Tagdown.Entity

open Text (ink ink_append ink_cons)

/-- There is a reference in the text: an `&`, a name that stands for a character, and a
semicolon. -/
def HasReference (s : List Char) : Prop :=
  ∃ before name after c, s = before ++ '&' :: (name ++ ';' :: after) ∧ '&' ∉ name ∧ ';' ∉ name ∧
    resolve? name = some c

theorem HasReference.append_left {s : List Char} (h : HasReference s) (front : List Char) :
    HasReference (front ++ s) := by
  obtain ⟨before, name, after, c, rfl, hname⟩ := h
  exact ⟨front ++ before, name, after, c, (List.append_assoc ..).symm, hname⟩

/-! ## Where the reader begins anew

While the reader holds characters that may become a reference, an ampersand tells it that they do
not. What comes before an ampersand and what begins with it are read independently. -/

theorem decode_amp (rest : List Char) : decode ('&' :: rest) = decodeFrom (some []) rest := rfl

/-- An `&` begins a reference anew, whatever was pending before it. -/
theorem decodeFrom_append_amp (rest s : List Char) : ∀ state,
    decodeFrom state (s ++ '&' :: rest) = decodeFrom state s ++ decode ('&' :: rest) := by
  induction s with
  | nil =>
    rintro (_ | pending)
    · rfl
    · rw [List.nil_append, decode_amp, decodeFrom, decodeFrom, if_pos rfl, List.cons_append]
  | cons c s ih =>
    rintro (_ | pending)
    · rw [List.cons_append, decodeFrom, decodeFrom]
      split
      · exact ih (some [])
      · rw [ih none, List.cons_append]
    · rw [List.cons_append, decodeFrom, decodeFrom]
      split
      · rw [ih (some []), List.cons_append, List.append_assoc]
      split
      · rw [ih none, List.append_assoc]
      · exact ih (some (c :: pending))

/-- So a text can be read in two parts, cut before an `&`. -/
theorem decode_append_amp (s rest : List Char) :
    decode (s ++ '&' :: rest) = decode s ++ decode ('&' :: rest) :=
  decodeFrom_append_amp rest s none

/-- A reference is read on its own. -/
theorem decode_append_reference (before after : List Char) {name : List Char} (hamp : '&' ∉ name)
    (hsemi : ';' ∉ name) :
    decode (before ++ '&' :: (name ++ ';' :: after)) =
      decode before ++ (decodeReference name ++ decode after) := by
  rw [decode_append_amp, decode_amp, decodeFrom_reference after name [] hamp hsemi]
  rfl

/-! ## What is read of a text

Either no reference is read and the text stays as it is, or one is read, and then there are fewer
characters to see. -/

/-- Where no reference is read, the text stays as it is. After an `&` that is not settled yet, the
text goes on from there. -/
theorem decodeFrom_eq_or_hasReference (s : List Char) :
    (decodeFrom none s = s ∨ HasReference s) ∧
      ∀ pending, '&' ∉ pending → ';' ∉ pending →
        decodeFrom (some pending) s = '&' :: (pending.reverse ++ s) ∨
          HasReference ('&' :: (pending.reverse ++ s)) := by
  induction s with
  | nil => exact ⟨Or.inl rfl, fun pending _ _ => Or.inl (by rw [decodeFrom, List.append_nil])⟩
  | cons c rest ih =>
    obtain ⟨outside, inside⟩ := ih
    have opened := inside [] List.not_mem_nil List.not_mem_nil
    -- what is written before the rest stays, and the rest is as the induction says
    have through {state : Option (List Char)} {text : List Char} (front : List Char)
        (h : decodeFrom state rest = text ∨ HasReference text) :
        front ++ decodeFrom state rest = front ++ text ∨ HasReference (front ++ text) :=
      h.imp (congrArg (front ++ ·)) fun h => h.append_left front
    refine ⟨?_, fun pending hamp hsemi => ?_⟩
    · rw [decodeFrom]
      split
      · rename_i hc
        rw [hc]
        exact opened
      · exact through [c] outside
    · rw [decodeFrom]
      split
      · rename_i hc
        rw [hc]
        exact through ('&' :: pending.reverse) opened
      split
      · rename_i hc
        rw [hc, decodeReference]
        split
        · rename_i c hname
          exact Or.inr ⟨[], pending.reverse, rest, c, rfl, by simpa using hamp,
            by simpa using hsemi, hname⟩
        · simpa using through ('&' :: (pending.reverse ++ [';'])) outside
      · rename_i hne hne'
        have := inside (c :: pending) (by simp [Ne.symm hne, hamp]) (by simp [Ne.symm hne', hsemi])
        simpa using this

/-- A text that is changed by reading has a reference in it. -/
theorem decode_eq_or_hasReference (s : List Char) : decode s = s ∨ HasReference s :=
  (decodeFrom_eq_or_hasReference s).1

/-- One character takes the place of a reference, which has three or more. -/
theorem HasReference.ink_decode_lt {s : List Char} (h : HasReference s) :
    ink (decode s) < ink s := by
  induction hn : s.length using Nat.strongRecOn generalizing s with
  | ind n ih =>
    obtain ⟨before, name, after, c, rfl, hamp, hsemi, hname⟩ := h
    have shrinks : ∀ u : List Char, u.length < n → ink (decode u) ≤ ink u := by
      intro u hu
      rcases decode_eq_or_hasReference u with heq | h
      · rw [heq]
      · exact Nat.le_of_lt (ih u.length hu h rfl)
    rw [List.length_append, List.length_cons, List.length_append, List.length_cons] at hn
    have hbefore := shrinks before (by omega)
    have hafter := shrinks after (by omega)
    have one : ink [c] ≤ 1 := List.countP_le_length
    have ends : ink ['&'] = 1 ∧ ink [';'] = 1 := by decide
    rw [decode_append_reference before after hamp hsemi, decodeReference, hname]
    simp only [ink_append, ink_cons _ (name ++ ';' :: after), ink_cons _ after]
    omega

/-- Decoding changes nothing, or leaves fewer characters that are no white space. -/
theorem decode_eq_self_or_ink_lt (s : List Char) : decode s = s ∨ ink (decode s) < ink s :=
  (decode_eq_or_hasReference s).imp_right HasReference.ink_decode_lt

/-- **A text is read as it is just if there is no reference in it.** A reference that is read
leaves fewer characters, white space not counted, and so another text. -/
theorem decode_eq_self_iff {s : List Char} : decode s = s ↔ ¬ HasReference s := by
  refine ⟨fun heq h => ?_, (decode_eq_or_hasReference s).resolve_right⟩
  have := h.ink_decode_lt
  rw [heq] at this
  exact Nat.lt_irrefl _ this

instance (s : List Char) : Decidable (HasReference s) :=
  decidable_of_iff (¬ decode s = s) (by rw [decode_eq_self_iff, Classical.not_not])

end Tagdown.Entity
