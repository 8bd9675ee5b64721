import Mathlib.Logic.Relation
import Tagdown.Regex.Expr

/-!
# What a pattern matches

`Expr.Matches` says between which places of a text a pattern has a match, one part of the pattern
after the other. `Expr.matchesIn` finds these places with operations on sets of bits, and it comes
to the same (`Expr.holds_matchesIn`): a text matches if the pattern has a match between any two of
its places (`isMatch_iff`).

The operations are told apart from patterns by `Relation.Holds`. A relation holds what is a relation
in the logic when the two agree on all places, and then each operation holds what it stands for: a
union, a composition, a number of steps (`Relation.Holds.power`), or any number of them
(`Relation.Holds.closure`). No step leads out of the text, and so no match is lost at its end.
-/

namespace Tagdown

namespace Regex

/-- From one place to another by `n` steps. -/
def Rounds (R : Nat → Nat → Prop) : Nat → Nat → Nat → Prop
  | 0 => Eq
  | n + 1 => Relation.Comp R (Rounds R n)

namespace Rounds

variable {R : Nat → Nat → Prop} {m n i j k : Nat}

/-- One step is a step. -/
theorem one_iff : Rounds R 1 i j ↔ R i j := by
  constructor
  · rintro ⟨k, step, rfl⟩
    exact step
  · exact fun step => ⟨j, step, rfl⟩

/-- Steps can be taken in two goes. -/
theorem add_iff : Rounds R (m + n) i j ↔ ∃ k, Rounds R m i k ∧ Rounds R n k j := by
  induction m generalizing i with
  | zero =>
    rw [Nat.zero_add]
    constructor
    · exact fun steps => ⟨i, rfl, steps⟩
    · rintro ⟨k, rfl, steps⟩
      exact steps
  | succ m ih =>
    rw [Nat.succ_add]
    constructor
    · rintro ⟨l, step, steps⟩
      obtain ⟨k, first, second⟩ := ih.1 steps
      exact ⟨k, ⟨l, step, first⟩, second⟩
    · rintro ⟨k, ⟨l, step, first⟩, second⟩
      exact ⟨l, step, ih.2 ⟨k, first, second⟩⟩

/-- A step that may be left out, `n` times over, is any number of steps up to `n`. -/
theorem optional_iff :
    Rounds (fun i j => R i j ∨ i = j) n i j ↔ ∃ m ≤ n, Rounds R m i j := by
  induction n generalizing i with
  | zero =>
    constructor
    · exact fun same => ⟨0, Nat.le_refl 0, same⟩
    · rintro ⟨m, hm, steps⟩
      obtain rfl : m = 0 := Nat.le_zero.1 hm
      exact steps
  | succ n ih =>
    constructor
    -- the first step is taken or left out
    · rintro ⟨k, step | rfl, steps⟩
      · obtain ⟨m, hm, steps⟩ := ih.1 steps
        exact ⟨m + 1, Nat.succ_le_succ hm, k, step, steps⟩
      · obtain ⟨m, hm, steps⟩ := ih.1 steps
        exact ⟨m, Nat.le_succ_of_le hm, steps⟩
    · rintro ⟨m, hm, steps⟩
      cases m with
      | zero => exact ⟨i, .inr rfl, ih.2 ⟨0, Nat.zero_le n, steps⟩⟩
      | succ m =>
        obtain ⟨k, step, steps⟩ := steps
        exact ⟨k, .inl step, ih.2 ⟨m, Nat.le_of_succ_le_succ hm, steps⟩⟩

/-- What is reached at all is reached in some number of steps. -/
theorem reflTransGen_iff : Relation.ReflTransGen R i j ↔ ∃ n, Rounds R n i j := by
  constructor
  · intro reached
    induction reached with
    | refl => exact ⟨0, rfl⟩
    | tail _ step ih =>
      obtain ⟨n, steps⟩ := ih
      exact ⟨n + 1, add_iff.2 ⟨_, steps, one_iff.2 step⟩⟩
  · rintro ⟨n, steps⟩
    induction n generalizing i with
    | zero => exact steps ▸ .refl
    | succ n ih =>
      obtain ⟨k, step, steps⟩ := steps
      exact .head step (ih steps)

end Rounds

namespace Relation

/-! ## Bits

A row is a natural number, with a bit for each place. What is said here of rows and of images is
said bit by bit, and the loop over the bits of a set goes from the last one down, so that a bound
on the places is a bound on its rounds. -/

@[simp] theorem size_ofRows (n : Nat) (row : Nat → Nat) : (ofRows n row).size = n := by
  simp [size, ofRows]

theorem row_ofRows (n : Nat) (row : Nat → Nat) (i : Nat) :
    (ofRows n row).row i = if i < n then row i else 0 := by
  by_cases h : i < n <;> simp [Relation.row, ofRows, Array.getD, h]

theorem relates_ofRows (n : Nat) (row : Nat → Nat) (i j : Nat) :
    (ofRows n row).relates i j = (decide (i < n) && (row i).testBit j) := by
  by_cases h : i < n <;> simp [relates, row_ofRows, h]

/-- No place beyond the last has a row. -/
theorem row_eq_zero (r : Relation) {i : Nat} (h : r.size ≤ i) : r.row i = 0 := by
  have h' : ¬ i < r.rows.size := Nat.not_lt.mpr h
  simp [Relation.row, Array.getD, h']

theorem relates_eq_false (r : Relation) {i : Nat} (h : r.size ≤ i) (j : Nat) :
    r.relates i j = false := by
  simp [relates, r.row_eq_zero h]

/-- A set of one place. -/
theorem testBit_one_shiftLeft (n k : Nat) : (1 <<< n).testBit k = decide (k = n) := by
  rw [Nat.testBit_shiftLeft]
  by_cases h : k = n
  · simp [h]
  · by_cases hn : n ≤ k
    · have hk : k - n ≠ 0 := by omega
      have hbit : Nat.testBit 1 (k - n) = false :=
        Bool.eq_false_iff.mpr fun hb => hk (Nat.testBit_one_eq_true_iff_self_eq_zero.mp hb)
      simp [h, hbit]
    · simp [h, hn]

/-- The logarithm of a set is the last of its places. -/
theorem le_log2_of_testBit {set k : Nat} (h : set.testBit k = true) : k ≤ set.log2 := by
  refine Nat.le_of_not_lt fun hk => ?_
  have hlt := Nat.lt_of_lt_of_le (Nat.lt_log2_self : set < _) (Nat.pow_le_pow_right (by omega) hk)
  rw [Nat.testBit_lt_two_pow hlt] at h
  cases h

/-- The image of a set takes its last place away in each round, so there are as many rounds as bits
to look at. -/
theorem testBit_imageWithin (r : Relation) (j : Nat) {fuel set : Nat}
    (h : ∀ k, set.testBit k = true → k < fuel) :
    (r.imageWithin fuel set).testBit j = true
      ↔ ∃ k, set.testBit k = true ∧ r.relates k j = true := by
  induction fuel generalizing set with
  | zero =>
    constructor
    · intro hj
      simp [imageWithin] at hj
    · rintro ⟨k, hk, -⟩
      exact absurd (h k hk) (Nat.not_lt_zero k)
  | succ fuel ih =>
    rw [imageWithin]
    by_cases hset : set = 0
    · simp [hset]
    · have hlast := Nat.testBit_log2 hset
      -- the set without its last place, and this place
      have hrest : ∀ k, (set ^^^ (1 <<< set.log2)).testBit k = true
          ↔ set.testBit k = true ∧ k ≠ set.log2 := by
        intro k
        rw [Nat.testBit_xor, testBit_one_shiftLeft]
        by_cases hk : k = set.log2
        · simp [hk, hlast]
        · simp [hk]
      have hless : ∀ k, (set ^^^ (1 <<< set.log2)).testBit k = true → k < fuel := by
        intro k hk
        have hk := (hrest k).1 hk
        have := le_log2_of_testBit hk.1
        have := h _ hlast
        omega
      rw [if_neg hset, Nat.testBit_or, Bool.or_eq_true, ih hless]
      constructor
      · rintro (hj | ⟨k, hk, hj⟩)
        · exact ⟨_, hlast, hj⟩
        · exact ⟨k, ((hrest k).1 hk).1, hj⟩
      · rintro ⟨k, hk, hj⟩
        by_cases hlog : k = set.log2
        · exact .inl (hlog ▸ hj)
        · exact .inr ⟨k, (hrest k).2 ⟨hk, hlog⟩, hj⟩

/-- A place is in the image of a set when one of the set is related to it. -/
theorem testBit_image (r : Relation) (set j : Nat) :
    (r.image set).testBit j = true
      ↔ ∃ k, set.testBit k = true ∧ r.relates k j = true :=
  r.testBit_imageWithin j fun _ hk => Nat.lt_succ_of_le (le_log2_of_testBit hk)

/-- A pivot is passed through by those who come to it. -/
theorem relates_addPivot (r : Relation) (k i j : Nat) :
    (r.addPivot k).relates i j = true ↔
      r.relates i j = true ∨ r.relates i k = true ∧ r.relates k j = true := by
  rw [addPivot, relates_ofRows]
  by_cases hi : i < r.size
  · by_cases hk : (r.row i).testBit k = true <;> simp [hi, hk, relates]
  · simp [hi, r.relates_eq_false (Nat.not_lt.mp hi)]

/-- Some place is related to some place when some row has a bit. -/
theorem isInhabited_iff (r : Relation) :
    r.isInhabited = true ↔ ∃ i j, r.relates i j = true := by
  rw [isInhabited, Array.any_eq_true]
  constructor
  · rintro ⟨i, hi, hrow⟩
    have hset : r.row i ≠ 0 := by
      simpa [Relation.row, Array.getD, hi] using hrow
    exact ⟨i, _, Nat.testBit_log2 hset⟩
  · rintro ⟨i, j, hbit⟩
    have hi : i < r.rows.size := Nat.lt_of_not_le fun hi => by
      rw [r.relates_eq_false hi] at hbit
      cases hbit
    refine ⟨i, hi, ?_⟩
    have hset : r.row i ≠ 0 := by
      intro hzero
      rw [relates, hzero, Nat.zero_testBit] at hbit
      cases hbit
    simpa [Relation.row, Array.getD, hi] using hset

/-! ## What the operations hold

`Holds n R` ties a relation to what it stands for on the first `n` places. That a step never
leaves these places is part of it, since a composition would miss what goes through a place
outside. -/

/-- Between the first `n` places, to be related is the same as `R`, and `R` does not lead from them
to any other place. -/
structure Holds (r : Relation) (n : Nat) (R : Nat → Nat → Prop) : Prop where
  size_eq : r.size = n
  relates_iff : ∀ i j, r.relates i j = true ↔ i < n ∧ R i j
  lt : ∀ {i j}, i < n → R i j → j < n

namespace Holds

variable {r s : Relation} {n : Nat} {R S : Nat → Nat → Prop}

/-- What is held can be said in another way. -/
theorem congr (h : r.Holds n R) (same : ∀ i j, R i j ↔ S i j) : r.Holds n S where
  size_eq := h.size_eq
  relates_iff i j := by rw [h.relates_iff, same]
  lt hi hstep := h.lt hi ((same _ _).2 hstep)

/-- Rows of one bit each hold a step to the place of that bit, from the places that have one. -/
theorem ofRows {p : Nat → Bool} {next : Nat → Nat} (lt : ∀ i, i < n → p i = true → next i < n) :
    (ofRows n fun i => if p i then 1 <<< next i else 0).Holds n
      fun i j => p i = true ∧ next i = j where
  size_eq := size_ofRows n _
  relates_iff i j := by
    rw [relates_ofRows, Bool.and_eq_true, decide_eq_true_iff]
    refine and_congr_right fun _ => ?_
    by_cases hp : p i = true
    · rw [if_pos hp, testBit_one_shiftLeft, decide_eq_true_iff, and_iff_right hp, eq_comm]
    · rw [if_neg hp, Nat.zero_testBit]
      exact iff_of_false Bool.false_ne_true fun h => hp h.1
  lt := by
    rintro i j hi ⟨hp, rfl⟩
    exact lt i hi hp

theorem identity (n : Nat) : (identity n).Holds n Eq where
  size_eq := size_ofRows n _
  relates_iff i j := by
    rw [Relation.identity, relates_ofRows, testBit_one_shiftLeft, Bool.and_eq_true,
      decide_eq_true_iff, decide_eq_true_iff, eq_comm]
  lt := by
    rintro i j hi rfl
    exact hi

/-- To stay is held along with any relation. -/
theorem stay (h : r.Holds n R) : (Relation.identity r.size).Holds n Eq := by
  rw [h.size_eq]
  exact identity n

theorem union (hr : r.Holds n R) (hs : s.Holds n S) :
    (r.union s).Holds n fun i j => R i j ∨ S i j where
  size_eq := (size_ofRows _ _).trans hr.size_eq
  relates_iff i j := by
    have first := hr.relates_iff i j
    have second := hs.relates_iff i j
    rw [Relation.union, relates_ofRows, hr.size_eq, Nat.testBit_or, Bool.and_eq_true,
      Bool.or_eq_true, decide_eq_true_iff]
    rw [relates] at first second
    rw [first, second, ← and_or_left, ← and_assoc, and_self]
  lt := by
    rintro i j hi (step | step)
    · exact hr.lt hi step
    · exact hs.lt hi step

theorem comp (hr : r.Holds n R) (hs : s.Holds n S) : (r.comp s).Holds n (Relation.Comp R S) where
  size_eq := (size_ofRows _ _).trans hr.size_eq
  relates_iff i j := by
    rw [Relation.comp, relates_ofRows, hr.size_eq, Bool.and_eq_true, decide_eq_true_iff,
      testBit_image]
    refine and_congr_right fun hi => exists_congr fun k => ?_
    have first := hr.relates_iff i k
    rw [relates] at first
    rw [first, hs.relates_iff]
    constructor
    · rintro ⟨⟨-, hik⟩, -, hkj⟩
      exact ⟨hik, hkj⟩
    · rintro ⟨hik, hkj⟩
      exact ⟨⟨hi, hik⟩, hr.lt hi hik, hkj⟩
  lt := by
    rintro i j hi ⟨k, hik, hkj⟩
    exact hs.lt (hr.lt hi hik) hkj

/-- Half of the steps twice over, and one more if they are odd in number. -/
theorem powerWithin (h : r.Holds n R) {fuel m : Nat} (enough : m ≤ fuel) :
    (r.powerWithin fuel m).Holds n (Rounds R m) := by
  induction fuel generalizing m with
  | zero =>
    obtain rfl : m = 0 := Nat.le_zero.1 enough
    exact h.stay
  | succ fuel ih =>
    rw [Relation.powerWithin]
    by_cases hm : m = 0
    · rw [if_pos hm]
      subst hm
      exact h.stay
    · have half := ih (m := m / 2) (by omega)
      -- half of the steps, and then half of them again
      have even : ((r.powerWithin fuel (m / 2)).comp (r.powerWithin fuel (m / 2))).Holds n
          (Rounds R (m / 2 + m / 2)) :=
        (half.comp half).congr fun i j => Rounds.add_iff.symm
      rw [if_neg hm]
      dsimp only
      by_cases hodd : m % 2 = 0
      · have hdouble : m / 2 + m / 2 = m := by omega
        rw [if_pos hodd]
        refine even.congr fun i j => ?_
        rw [hdouble]
      -- one step is missing
      · have hdouble : m / 2 + m / 2 + 1 = m := by omega
        have one_more : ∀ i j, Rounds R (m / 2 + m / 2 + 1) i j ↔ Rounds R m i j := fun i j => by
          rw [hdouble]
        rw [if_neg hodd]
        refine (even.comp h).congr fun i j => ?_
        rw [← one_more, Rounds.add_iff]
        simp only [Rounds.one_iff]
        rfl

/-- **Powers** hold a number of steps. The number is halved in each round, so that a large bound in
a pattern takes few of them. -/
theorem power (h : r.Holds n R) (m : Nat) : (r.power m).Holds n (Rounds R m) :=
  h.powerWithin (Nat.le_refl m)

end Holds

/-! ## Any number of steps

The closure is found as Warshall's loop finds it: one place after the other becomes a pivot, and
whoever comes to the pivot is led on to where it leads. After all places have been pivots no two
steps are left that one would not do for, and single steps were there from the beginning. -/

/-- How far the loop over the pivots has come: no more is related than what any number of steps
leads to, and of two steps that meet at a pivot there is one in their place. -/
structure Closing (R : Nat → Nat → Prop) (n : Nat) (pivots : List Nat) (r : Relation) : Prop where
  size_eq : r.size = n
  of_eq : ∀ {i}, i < n → r.relates i i = true
  of_step : ∀ {i j}, i < n → R i j → r.relates i j = true
  sound : ∀ {i j}, r.relates i j = true → i < n ∧ Relation.ReflTransGen R i j
  meet : ∀ k ∈ pivots, ∀ {i j}, r.relates i k = true → r.relates k j = true →
    r.relates i j = true

variable {r : Relation} {n : Nat} {R : Nat → Nat → Prop} {pivots : List Nat}

/-- The loop begins with single steps, and with none. -/
theorem Holds.closing (h : r.Holds n R) : Closing R n [] (r.union (.identity r.size)) := by
  have start := h.union h.stay
  exact
    { size_eq := start.size_eq
      of_eq := fun hi => (start.relates_iff _ _).2 ⟨hi, .inr rfl⟩
      of_step := fun hi step => (start.relates_iff _ _).2 ⟨hi, .inl step⟩
      sound := by
        intro i j hij
        obtain ⟨hi, step | rfl⟩ := (start.relates_iff i j).1 hij
        · exact ⟨hi, .single step⟩
        · exact ⟨hi, .refl⟩
      meet := nofun }

/-- **One more pivot.** Two steps that meet at an earlier one still have one in their place, since
each of the two is an old step or goes through the new pivot. -/
theorem Closing.addPivot (h : Closing R n pivots r) (k : Nat) :
    Closing R n (k :: pivots) (r.addPivot k) where
  size_eq := (size_ofRows _ _).trans h.size_eq
  of_eq hi := (relates_addPivot r k _ _).2 (.inl (h.of_eq hi))
  of_step hi step := (relates_addPivot r k _ _).2 (.inl (h.of_step hi step))
  sound hij := by
    rcases (relates_addPivot r k _ _).1 hij with old | ⟨before, after⟩
    · exact h.sound old
    · exact ⟨(h.sound before).1, (h.sound before).2.trans (h.sound after).2⟩
  meet l hl i j hil hlj := by
    rw [relates_addPivot] at hil hlj ⊢
    rcases List.mem_cons.1 hl with rfl | hl
    · exact .inr ⟨hil.elim id And.left, hlj.elim id And.right⟩
    · rcases hil with hil | ⟨hik, hkl⟩
      · rcases hlj with hlj | ⟨hlk, hkj⟩
        · exact .inl (h.meet l hl hil hlj)
        · exact .inr ⟨h.meet l hl hil hlk, hkj⟩
      · rcases hlj with hlj | ⟨-, hkj⟩
        · exact .inr ⟨hik, h.meet l hl hkl hlj⟩
        · exact .inr ⟨hik, hkj⟩

/-- The whole loop. -/
theorem Closing.foldl (h : Closing R n pivots r) (further : List Nat) :
    Closing R n (further.reverse ++ pivots) (further.foldl Relation.addPivot r) := by
  induction further generalizing pivots r with
  | nil => exact h
  | cons k further ih =>
    have := ih (h.addPivot k)
    rw [List.foldl_cons, List.reverse_cons, List.append_assoc]
    exact this

/-- **Closures** hold any number of steps: in the end, every place has been a pivot. -/
theorem Holds.closure (h : r.Holds n R) : r.closure.Holds n (Relation.ReflTransGen R) := by
  have done := h.closing.foldl (List.range r.size)
  have stays : ∀ {i j}, i < n → Relation.ReflTransGen R i j → j < n := by
    intro i j hi reached
    induction reached with
    | refl => exact hi
    | tail _ step ih => exact h.lt ih step
  refine ⟨done.size_eq, fun i j => ⟨done.sound, ?_⟩, stays⟩
  rintro ⟨hi, reached⟩
  induction reached with
  | refl => exact done.of_eq hi
  | tail reached step ih =>
    have hk := stays hi reached
    refine done.meet _ ?_ ih (done.of_step hk step)
    simpa [h.size_eq] using hk

end Relation

/-! ## Patterns

`Expr.Matches` is defined by recursion on the pattern, with no bound on a repetition other than
its own. A repetition of the empty text is no exception: it adds no place to those that are
found. -/

/-- The pattern has a match from one place of the text to another. -/
def Expr.Matches (text : Array Char) : Expr → Nat → Nat → Prop
  | empty, i, j => i = j
  | chars cls, i, j => (∃ c, text[i]? = some c ∧ cls.contains c = true) ∧ i + 1 = j
  | assertion a, i, j => a.holds text i = true ∧ i = j
  | concat a b, i, j => ∃ k, a.Matches text i k ∧ b.Matches text k j
  | alternation a b, i, j => a.Matches text i j ∨ b.Matches text i j
  | repetition a min max, i, j =>
    ∃ further, (∀ most, max = some most → further ≤ most - min) ∧
      Rounds (a.Matches text) (min + further) i j
  | capture a, i, j => a.Matches text i j

/-- As many rounds as are asked for, and then as many further ones as are allowed. -/
theorem Relation.Holds.repetition {r : Relation} {n : Nat} {R : Nat → Nat → Prop}
    (h : r.Holds n R) (min : Nat) (max : Option Nat) :
    ((r.power min).comp
      (match max with
        | some max => (r.union (.identity r.size)).power (max - min)
        | none => r.closure)).Holds n
      fun i j => ∃ further, (∀ most, max = some most → further ≤ most - min) ∧
        Rounds R (min + further) i j := by
  cases max with
  | none =>
    -- without a bound any number of rounds may follow, and closing finds the places
    refine ((h.power min).comp h.closure).congr fun i j => ?_
    simp only [Relation.Comp, Rounds.reflTransGen_iff, Rounds.add_iff]
    constructor
    · rintro ⟨k, first, further, second⟩
      exact ⟨further, nofun, k, first, second⟩
    · rintro ⟨further, -, k, first, second⟩
      exact ⟨k, first, further, second⟩
  | some most =>
    -- with a bound each further round is one that may be left out
    have further := (h.union h.stay).power (most - min)
    refine ((h.power min).comp further).congr fun i j => ?_
    simp only [Relation.Comp, Rounds.optional_iff, Rounds.add_iff]
    constructor
    · rintro ⟨k, first, further, hfurther, second⟩
      refine ⟨further, fun bound hbound => ?_, k, first, second⟩
      obtain rfl := Option.some.inj hbound
      exact hfurther
    · rintro ⟨further, hfurther, k, first, second⟩
      exact ⟨k, first, further, hfurther most rfl, second⟩

/-- **The matches of a pattern** are what is found by sets of bits. By induction on the pattern,
with the operation for each kind of pattern. -/
theorem Expr.holds_matchesIn (text : Array Char) (e : Expr) :
    (e.matchesIn text).Holds (text.size + 1) (e.Matches text) := by
  induction e with
  | empty => exact .identity _
  | chars cls =>
    -- one character further is still a place of the text, if there was a character to take
    have inside : ∀ i, i < text.size + 1 → text[i]?.any cls.contains = true →
        i + 1 < text.size + 1 := by
      intro i _ hi
      obtain ⟨c, hc, -⟩ := (Option.any_eq_true _ _).1 hi
      exact Nat.succ_lt_succ (Array.getElem?_eq_some_iff.1 hc).1
    refine (Relation.Holds.ofRows inside).congr fun i j => ?_
    rw [Option.any_eq_true]
    rfl
  | assertion a => exact .ofRows fun _ hi _ => hi
  | concat a b iha ihb => exact iha.comp ihb
  | alternation a b iha ihb => exact iha.union ihb
  | repetition a min max ih => exact ih.repetition min max
  | capture a ih => exact ih

end Regex

/-- **A text matches** a pattern when the pattern has a match between two of its places. A match may
begin and end anywhere, unless the pattern itself has an anchor. -/
theorem Regex.isMatch_iff (regex : Regex) (text : String) :
    regex.isMatch text = true ↔
      ∃ i j, i ≤ text.toList.length ∧ regex.expr.Matches text.toList.toArray i j := by
  rw [isMatch, Relation.isInhabited_iff]
  simp only [(Expr.holds_matchesIn _ _).relates_iff, Nat.lt_succ_iff, List.size_toArray]

end Tagdown
