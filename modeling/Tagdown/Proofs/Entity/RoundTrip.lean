import Tagdown.Entity.Decode
import Tagdown.Entity.Encode

/-!
# Reading what was written

The references that `encodeText` writes are read back as the characters that they were written
for. Every `&` of the text itself was written as one of them, so all other characters stand
for themselves, and a text that is written and read is the same text (`decode_encodeText`). The
value of an attribute has one more reference, for the quote that would end it
(`decode_encodeAttribute`).

Each reference is read to its end before anything that follows it, so what is written piece by piece
is read piece by piece (`decode_encodeText_append`).

A text that was written begins no tag, and a value neither ends its tag nor its quotes
(`lt_not_mem_encodeText`, `gt_not_mem_encodeAttribute`, `quote_not_mem_encodeAttribute`).
-/

namespace Tagdown.Entity

open Text (noBreakSpace)

/-- A reference is read to its end, and what follows it is read on its own. -/
theorem decodeFrom_reference (rest : List Char) :
    ∀ (name pending : List Char), '&' ∉ name → ';' ∉ name →
      decodeFrom (some pending) (name ++ ';' :: rest) =
        decodeReference (pending.reverse ++ name) ++ decodeFrom none rest := by
  intro name
  induction name with
  | nil =>
    intro pending _ _
    rw [List.nil_append, decodeFrom, if_neg (by decide), if_pos rfl, List.append_nil]
  | cons c name ih =>
    intro pending hamp hsemi
    rw [List.mem_cons, not_or] at hamp hsemi
    rw [List.cons_append, decodeFrom, if_neg (Ne.symm hamp.1), if_neg (Ne.symm hsemi.1),
      ih (c :: pending) hamp.2 hsemi.2, List.reverse_cons, List.append_assoc,
      List.singleton_append]

/-- The reference for a character is read as that character. -/
theorem decodeFrom_named (name : List Char) {c : Char} (hname : decodeReference name = [c])
    (hamp : '&' ∉ name) (hsemi : ';' ∉ name) (rest : List Char) :
    decodeFrom none ('&' :: (name ++ ';' :: rest)) = c :: decodeFrom none rest := by
  rw [decodeFrom, if_pos rfl, decodeFrom_reference rest name [] hamp hsemi, List.reverse_nil,
    List.nil_append, hname, List.singleton_append]

theorem decodeFrom_encodeTextChar (c : Char) (rest : List Char) :
    decodeFrom none (encodeTextChar c ++ rest) = c :: decodeFrom none rest := by
  rw [encodeTextChar]
  split
  · rename_i hc
    rw [hc]
    exact decodeFrom_named "amp".toList (by decide) (by decide) (by decide) rest
  split
  · rename_i hc
    rw [hc]
    exact decodeFrom_named "lt".toList (by decide) (by decide) (by decide) rest
  split
  · rename_i hc
    rw [hc]
    exact decodeFrom_named "gt".toList (by decide) (by decide) (by decide) rest
  split
  · rename_i hc
    rw [hc]
    exact decodeFrom_named "nbsp".toList (by decide) (by decide) (by decide) rest
  · rename_i hamp _ _ _
    rw [List.singleton_append, decodeFrom, if_neg hamp]

theorem decodeFrom_encodeAttributeChar (c : Char) (rest : List Char) :
    decodeFrom none (encodeAttributeChar c ++ rest) = c :: decodeFrom none rest := by
  rw [encodeAttributeChar]
  split
  · rename_i hc
    rw [hc]
    exact decodeFrom_named "quot".toList (by decide) (by decide) (by decide) rest
  · exact decodeFrom_encodeTextChar c rest

/-- What is written character by character is read character by character, if each of them is, and
then what follows is read on its own. -/
theorem decode_flatMap_append {write : Char → List Char}
    (h : ∀ c rest, decodeFrom none (write c ++ rest) = c :: decodeFrom none rest)
    (s rest : List Char) : decode (s.flatMap write ++ rest) = s ++ decode rest := by
  induction s with
  | nil => rfl
  | cons c s ih =>
    rw [decode] at ih ⊢
    rw [List.flatMap_cons, List.append_assoc, h, ih, List.cons_append]

/-- What was written as text is read back, whatever follows it. -/
theorem decode_encodeText_append (s rest : List Char) :
    decode (encodeText s ++ rest) = s ++ decode rest :=
  decode_flatMap_append decodeFrom_encodeTextChar s rest

theorem decode_encodeAttribute_append (s rest : List Char) :
    decode (encodeAttribute s ++ rest) = s ++ decode rest :=
  decode_flatMap_append decodeFrom_encodeAttributeChar s rest

/-- **A text that was written is read back** as it was. Nothing that is written as it stands begins
a reference, since `&` is written as one itself. -/
theorem decode_encodeText (s : List Char) : decode (encodeText s) = s := by
  have := decode_encodeText_append s []
  rwa [List.append_nil, show decode [] = [] from rfl, List.append_nil] at this

/-- **The value of an attribute that was written is read back** as it was. Here the quotation mark
is written as a reference as well. -/
theorem decode_encodeAttribute (s : List Char) : decode (encodeAttribute s) = s := by
  have := decode_encodeAttribute_append s []
  rwa [List.append_nil, show decode [] = [] from rfl, List.append_nil] at this

/-! ## What is not written

The characters that have a meaning in HTML are not among those that are written, with the
exception of the ampersands of references. -/

/-- The references that stand for characters between tags. -/
def textReferences : List (List Char) :=
  ["&amp;".toList, "&lt;".toList, "&gt;".toList, "&nbsp;".toList]

theorem encodeTextChar_eq_self {c : Char} (hc : c ∉ ['&', '<', '>', noBreakSpace]) :
    encodeTextChar c = [c] := by
  simp only [List.mem_cons, List.not_mem_nil, or_false, not_or] at hc
  rw [encodeTextChar, if_neg hc.1, if_neg hc.2.1, if_neg hc.2.2.1, if_neg hc.2.2.2]

/-- A character is written as a reference, or has no meaning of its own and is written as it is. -/
theorem cases_encodeTextChar (c : Char) :
    encodeTextChar c ∈ textReferences ∨
      encodeTextChar c = [c] ∧ c ∉ ['&', '<', '>', noBreakSpace] := by
  by_cases hc : c ∈ ['&', '<', '>', noBreakSpace]
  · refine Or.inl ?_
    simp only [List.mem_cons, List.not_mem_nil, or_false] at hc
    obtain rfl | rfl | rfl | rfl := hc <;> simp [encodeTextChar, textReferences, noBreakSpace]
  · exact Or.inr ⟨encodeTextChar_eq_self hc, hc⟩

/-- What is in no reference is written for itself only. -/
theorem eq_of_mem_encodeTextChar {c d : Char} (h : d ∈ encodeTextChar c)
    (hd : ∀ name ∈ textReferences, d ∉ name) :
    d = c ∧ c ∉ ['&', '<', '>', noBreakSpace] := by
  rcases cases_encodeTextChar c with hreference | ⟨hself, hplain⟩
  · exact absurd h (hd _ hreference)
  · exact ⟨List.mem_singleton.1 (hself ▸ h), hplain⟩

/-- No quote is left in the value of an attribute, so that it ends with the quote after it. -/
theorem quote_not_mem_encodeAttribute (s : List Char) : '"' ∉ encodeAttribute s := by
  rw [encodeAttribute, List.mem_flatMap]
  rintro ⟨c, -, hc⟩
  rw [encodeAttributeChar] at hc
  split at hc
  · exact absurd hc (by decide)
  · rename_i hquote
    exact hquote (eq_of_mem_encodeTextChar hc (by decide)).1.symm

/-- Nothing in it ends the tag that it stands in, -/
theorem gt_not_mem_encodeAttribute (s : List Char) : '>' ∉ encodeAttribute s := by
  rw [encodeAttribute, List.mem_flatMap]
  rintro ⟨c, -, hc⟩
  rw [encodeAttributeChar] at hc
  split at hc
  · exact absurd hc (by decide)
  · obtain ⟨rfl, hplain⟩ := eq_of_mem_encodeTextChar hc (by decide)
    exact hplain (by decide)

/-- and nothing in a text begins a tag. -/
theorem lt_not_mem_encodeText (s : List Char) : '<' ∉ encodeText s := by
  rw [encodeText, List.mem_flatMap]
  rintro ⟨c, -, hc⟩
  obtain ⟨rfl, hplain⟩ := eq_of_mem_encodeTextChar hc (by decide)
  exact hplain (by decide)

end Tagdown.Entity
