import Tagdown.Text.Lowercase

/-!
# Lower case and ASCII

The table of letters moves `A` to `Z`, and besides these only characters that are not among the
first 128. It moves nothing to a place before `a`, so what is in lower case has none of the
letters `A` to `Z` in it (`asciiLower_lowercase`).

Lower case in the sense of Unicode and `asciiLower` are the same for a text just if no other
capital letter is in it (`lowercase_eq_asciiLower_iff`). The tags of HTML are such texts, as all
that is ASCII (`lowercase_eq_asciiLower`).
-/

namespace Tagdown.Text

/-- One of the first 128 characters. -/
def isAscii (c : Char) : Bool :=
  c.toNat < 128

/-- A character with a lower case that `asciiLower` does not know of. -/
def isForeignCapital (c : Char) : Bool :=
  !isAscii c && lowercaseFrom [] [c] != [c]

/-! ## Single characters

The table is a list of ranges, each with the place where its images begin. The first range is `A`
to `Z`. Of the others no more is needed than that they begin beyond ASCII and do not lead below `a`,
which is looked up once for all of them. -/

/-- Only the letters `A` to `Z` are changed. -/
theorem asciiLowerChar_eq_self {c : Char} (h : ¬ (65 ≤ c.toNat ∧ c.toNat ≤ 90)) :
    asciiLowerChar c = c := by
  have beyond : ¬ ('A' ≤ c && c ≤ 'Z') = true := by
    rw [Bool.and_eq_true, decide_eq_true_iff, decide_eq_true_iff]
    exact h
  rw [asciiLowerChar, if_neg beyond]

/-- Beyond ASCII nothing is changed. -/
theorem asciiLowerChar_of_not_isAscii {c : Char} (hc : isAscii c = false) :
    asciiLowerChar c = c := by
  have : ¬ c.toNat < 128 := of_decide_eq_false hc
  exact asciiLowerChar_eq_self (by omega)

/-- What the table says, in the order of its ranges. -/
theorem ranges_lowercaseMap :
    lowercaseMap.ranges.head?.map (fun r => (r.lo, r.hi, r.step, r.image)) =
        some (65, 90, 1, 97) ∧
      lowercaseMap.ranges.tail.all (fun r => decide (128 ≤ r.lo ∧ 97 ≤ r.image)) = true := by
  rw [lowercaseMap, CharacterMap.ofSource, tableEntries, lowercaseSource]
  simp only [List.flatMap_cons, List.flatMap_nil]
  -- A literal is its characters encoded, and to decode one that long is slow in the kernel.
  repeat rw [String.toList_ofList]
  decide +kernel

/-- The same for use in proofs: the first range, and what the others have in common. -/
theorem exists_ranges_lowercaseMap :
    ∃ others, lowercaseMap.ranges = ⟨65, 90, 1, 97⟩ :: others ∧
      ∀ r ∈ others, 128 ≤ r.lo ∧ 97 ≤ r.image := by
  obtain ⟨hhead, htail⟩ := ranges_lowercaseMap
  cases hranges : lowercaseMap.ranges with
  | nil =>
    rw [hranges] at hhead
    cases hhead
  | cons first others =>
    rw [hranges] at hhead htail
    obtain ⟨lo, hi, step, image⟩ := first
    obtain ⟨rfl, rfl, rfl, rfl⟩ : lo = 65 ∧ hi = 90 ∧ step = 1 ∧ image = 97 := by
      simpa using hhead
    exact ⟨others, rfl, fun r hr => of_decide_eq_true (List.all_eq_true.1 htail r hr)⟩

/-- On ASCII the table does what `asciiLower` does, since only its first range is there. -/
theorem apply_lowercaseMap {c : Char} (hc : isAscii c = true) :
    lowercaseMap.apply c = asciiLowerChar c := by
  have hlt : c.toNat < 128 := of_decide_eq_true hc
  obtain ⟨others, hranges, hothers⟩ := exists_ranges_lowercaseMap
  have none_beyond : others.findSome? (·.imageOf? c.toNat) = none := by
    refine List.findSome?_eq_none_iff.2 fun r hr => ?_
    have := (hothers r hr).1
    rw [MappedRange.imageOf?, if_neg (by omega)]
  rw [CharacterMap.apply, hranges, List.findSome?_cons, MappedRange.imageOf?]
  by_cases h : 65 ≤ c.toNat ∧ c.toNat ≤ 90
  · have upper : ('A' ≤ c && c ≤ 'Z') = true := by
      rw [Bool.and_eq_true, decide_eq_true_iff, decide_eq_true_iff]
      exact h
    rw [if_pos ⟨h.1, h.2, Nat.mod_one _⟩, asciiLowerChar, if_pos upper]
    exact congrArg Char.ofNat (show 97 + (c.toNat - 65) = c.toNat + 32 by omega)
  · rw [if_neg fun h' => h ⟨h'.1, h'.2.1⟩, none_beyond, asciiLowerChar_eq_self h]

/-- The table leads to none of the letters `A` to `Z`. -/
theorem asciiLowerChar_apply_lowercaseMap (c : Char) :
    asciiLowerChar (lowercaseMap.apply c) = lowercaseMap.apply c := by
  cases hc : isAscii c with
  | true => rw [apply_lowercaseMap hc, asciiLowerChar_asciiLowerChar]
  | false =>
    obtain ⟨others, hranges, hothers⟩ := exists_ranges_lowercaseMap
    rw [CharacterMap.apply]
    cases himage : lowercaseMap.ranges.findSome? (·.imageOf? c.toNat) with
    | none => exact asciiLowerChar_of_not_isAscii hc
    | some n =>
      obtain ⟨r, hr, hn⟩ := List.exists_of_findSome?_eq_some himage
      -- all images of the table begin at the small `a` or after it
      have low : 97 ≤ r.image := by
        rw [hranges] at hr
        rcases List.mem_cons.1 hr with rfl | hr
        · exact Nat.le_refl 97
        · exact (hothers r hr).2
      have far : 97 ≤ n := by
        rw [MappedRange.imageOf?] at hn
        split at hn
        · rw [← Option.some.inj hn]
          omega
        · cases hn
      show asciiLowerChar (Char.ofNat n) = Char.ofNat n
      refine asciiLowerChar_eq_self ?_
      by_cases valid : n.isValidChar
      · rw [toNat_ofNat valid]
        omega
      · rw [Char.ofNat, dif_neg valid]
        decide

/-! ## Texts

One letter is special: a capital sigma becomes one of two letters, depending on what stands
around it. Both are beyond ASCII. -/

/-- A capital sigma does not stay. -/
theorem lowercaseSigma_ne (before after : List Char) :
    lowercaseSigma before after ≠ Char.ofNat 0x3A3 := by
  rw [lowercaseSigma]
  split <;> decide

/-- What comes of a sigma is no ASCII, and what comes of another character is read from the
table. -/
theorem asciiLowerChar_of_mem_lowercaseFrom {s : List Char} :
    ∀ {before : List Char} {c : Char}, c ∈ lowercaseFrom before s → asciiLowerChar c = c := by
  induction s with
  | nil => exact fun hc => absurd hc List.not_mem_nil
  | cons d s ih =>
    intro before c hc
    rw [lowercaseFrom, List.mem_append] at hc
    rcases hc with hc | hc
    · split at hc
      · rw [List.mem_singleton.1 hc, lowercaseSigma]
        split <;> decide
      · rw [lowercaseChar] at hc
        split at hc
        · rcases List.mem_cons.1 hc with rfl | hc
          · decide
          · rw [List.mem_singleton.1 hc]
            decide
        · rw [List.mem_singleton.1 hc]
          exact asciiLowerChar_apply_lowercaseMap d
    · exact ih hc

/-- Nothing is left in what is in lower case for `asciiLower` to do. -/
theorem asciiLower_lowercase (s : String) : asciiLower (lowercase s) = lowercase s := by
  have same : (lowercaseFrom [] s.toList).map asciiLowerChar = lowercaseFrom [] s.toList :=
    (List.map_congr_left fun c hc => asciiLowerChar_of_mem_lowercaseFrom hc).trans (List.map_id _)
  rw [asciiLower, mapChars, lowercase, toList_mapChars, same, mapChars]

/-- The first character alone decides what stands first. -/
theorem lowercaseFrom_cons_eq_iff (before : List Char) (c : Char) (s image : List Char) :
    lowercaseFrom before (c :: s) = asciiLowerChar c :: image ↔
      isForeignCapital c = false ∧ lowercaseFrom (c :: before) s = image := by
  rw [isForeignCapital, lowercaseFrom, lowercaseFrom, lowercaseFrom, List.append_nil]
  by_cases hsigma : c = Char.ofNat 0x3A3
  · subst hsigma
    have hlower := asciiLowerChar_of_not_isAscii (c := Char.ofNat 0x3A3) (by decide)
    rw [if_pos rfl, if_pos rfl, hlower]
    simp [lowercaseSigma_ne, show isAscii (Char.ofNat 0x3A3) = false by decide]
  rw [if_neg hsigma, if_neg hsigma, lowercaseChar]
  by_cases hdotted : c = Char.ofNat 0x130
  · subst hdotted
    have hlower := asciiLowerChar_of_not_isAscii (c := Char.ofNat 0x130) (by decide)
    rw [if_pos rfl, hlower]
    simp [show isAscii (Char.ofNat 0x130) = false by decide,
      show 'i' ≠ Char.ofNat 0x130 by decide]
  rw [if_neg hdotted, List.singleton_append, List.cons.injEq]
  refine and_congr_left fun _ => ?_
  cases hc : isAscii c with
  | true => simp [apply_lowercaseMap hc]
  | false => simp [asciiLowerChar_of_not_isAscii hc]

/-- By induction on the text, where the state of the walk matters to a sigma only. -/
theorem lowercaseFrom_eq_map_iff {s : List Char} :
    ∀ {before : List Char}, lowercaseFrom before s = s.map asciiLowerChar ↔
      ∀ c ∈ s, isForeignCapital c = false := by
  induction s with
  | nil => exact ⟨fun _ _ hc => absurd hc List.not_mem_nil, fun _ => rfl⟩
  | cons c s ih =>
    intro before
    rw [List.map_cons, lowercaseFrom_cons_eq_iff, ih, List.forall_mem_cons]

/-- **Lower case is the same in both senses** just for a text without capitals beyond ASCII. Such a
capital is left alone by `asciiLower` and has another character as its lower case. -/
theorem lowercase_eq_asciiLower_iff {s : String} :
    lowercase s = asciiLower s ↔ ∀ c ∈ s.toList, isForeignCapital c = false := by
  rw [lowercase, asciiLower, mapChars, mapChars, String.ofList_inj, lowercaseFrom_eq_map_iff]

/-- The case that is met most often: a text of ASCII alone. -/
theorem lowercase_eq_asciiLower {s : String} (hs : s.toList.all isAscii = true) :
    lowercase s = asciiLower s := by
  refine lowercase_eq_asciiLower_iff.2 fun c hc => ?_
  rw [isForeignCapital, List.all_eq_true.1 hs c hc]
  rfl

end Tagdown.Text
