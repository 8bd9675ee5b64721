import Tagdown.Proofs.Arena.Forest

/-!
# Lists of siblings

What an edit does to a list of children is always the same: one node is cut out of it, and
some others, or none, stand in its place (`splice`). To take a node out is to put nothing in
its place; to put `n` before `r` is to put `n` and `r` into the place of `r`.

The two lemmas on siblings say what the nodes around a place see when a node goes from there
(`siblings_remove`) or comes to stand there (`siblings_insert`).
-/

namespace Tagdown.Arena

/-- The list with `ys` in the place of `x`. -/
def splice (x : NodeId) (ys l : List NodeId) : List NodeId :=
  l.flatMap fun y => if y = x then ys else [y]

variable {x : NodeId} {ys l r : List NodeId}

@[simp] theorem splice_nil (x : NodeId) (ys : List NodeId) : splice x ys [] = [] := rfl

@[simp] theorem splice_cons_self (x : NodeId) (ys l : List NodeId) :
    splice x ys (x :: l) = ys ++ splice x ys l := by
  simp [splice]

theorem splice_cons_of_ne {y : NodeId} (h : y ≠ x) (ys l : List NodeId) :
    splice x ys (y :: l) = y :: splice x ys l := by
  simp [splice, h]

/-- A list can be spliced part by part. -/
@[simp] theorem splice_append (x : NodeId) (ys l r : List NodeId) :
    splice x ys (l ++ r) = splice x ys l ++ splice x ys r :=
  List.flatMap_append

/-- The same for any number of parts. -/
theorem splice_flatMap (x : NodeId) (ys l : List NodeId) (f : NodeId → List NodeId) :
    splice x ys (l.flatMap f) = l.flatMap fun y => splice x ys (f y) :=
  List.flatMap_assoc

/-- Nothing happens to a list in which the node does not stand. -/
theorem splice_eq_self (h : x ∉ l) (ys : List NodeId) : splice x ys l = l := by
  induction l with
  | nil => rfl
  | cons y l ih =>
    have hy : y ≠ x := fun he => h (he ▸ List.mem_cons_self)
    rw [splice_cons_of_ne hy, ih fun hl => h (List.mem_cons_of_mem _ hl)]

/-- Nodes may be given other names first, if no other one gets the name of `x`. -/
theorem map_splice {f : NodeId → NodeId} (inj : ∀ y ∈ l, f y = f x → y = x) :
    (splice x ys l).map f = splice (f x) (ys.map f) (l.map f) := by
  induction l with
  | nil => rfl
  | cons y l ih =>
    have ih := ih fun z hz => inj z (List.mem_cons_of_mem y hz)
    rcases eq_or_ne y x with rfl | hy
    · rw [splice_cons_self, List.map_append, ih, List.map_cons, splice_cons_self]
    · have hfy : f y ≠ f x := fun he => hy (inj y List.mem_cons_self he)
      rw [splice_cons_of_ne hy, List.map_cons, ih, List.map_cons, splice_cons_of_ne hfy]

/-- A node in its own place changes nothing. -/
theorem splice_self (x : NodeId) (l : List NodeId) : splice x [x] l = l := by
  induction l with
  | nil => rfl
  | cons y l ih =>
    rcases eq_or_ne y x with rfl | hy
    · rw [splice_cons_self, ih, List.singleton_append]
    · rw [splice_cons_of_ne hy, ih]

/-- The place of a node in a list without repetition. -/
theorem splice_middle (h : (l ++ x :: r).Nodup) (ys : List NodeId) :
    splice x ys (l ++ x :: r) = l ++ (ys ++ r) := by
  obtain ⟨hx, -⟩ := List.nodup_cons.1 (List.nodup_middle.1 h)
  rw [List.mem_append, not_or] at hx
  rw [splice_append, splice_cons_self, splice_eq_self hx.1, splice_eq_self hx.2]

/-- To take a node out leaves the others in their order. -/
theorem splice_nil_sublist (x : NodeId) (l : List NodeId) : (splice x [] l).Sublist l := by
  induction l with
  | nil => exact List.Sublist.refl _
  | cons y l ih =>
    rcases eq_or_ne y x with rfl | hy
    · rw [splice_cons_self, List.nil_append]
      exact ih.cons y
    · rw [splice_cons_of_ne hy]
      exact ih.cons_cons y

/-- What is there afterwards was there, or has come into the place of `x`. -/
theorem mem_splice {y : NodeId} :
    y ∈ splice x ys l ↔ (y ∈ l ∧ y ≠ x) ∨ (x ∈ l ∧ y ∈ ys) := by
  simp only [splice, List.mem_flatMap]
  constructor
  · rintro ⟨z, hz, hy⟩
    by_cases hzx : z = x
    · subst hzx
      rw [if_pos rfl] at hy
      exact Or.inr ⟨hz, hy⟩
    · rw [if_neg hzx, List.mem_singleton] at hy
      subst hy
      exact Or.inl ⟨hz, hzx⟩
  · rintro (⟨hy, hyx⟩ | ⟨hx, hy⟩)
    · exact ⟨y, hy, by simp [hyx]⟩
    · exact ⟨x, hx, by simpa using hy⟩

/-- To put something into a place, and then something else into the same place. -/
theorem splice_splice (x : NodeId) (xs ys l : List NodeId) :
    splice x xs (splice x ys l) = splice x (splice x xs ys) l := by
  induction l with
  | nil => rfl
  | cons y l ih =>
    rcases eq_or_ne y x with rfl | hy
    · rw [splice_cons_self, splice_cons_self, splice_append, ih]
    · rw [splice_cons_of_ne hy, splice_cons_of_ne hy, splice_cons_of_ne hy, ih]

/-- To take a node out leaves no other one out. -/
@[simp] theorem mem_splice_nil {y : NodeId} : y ∈ splice x [] l ↔ y ∈ l ∧ y ≠ x := by
  simp [mem_splice]

/-! ## The nodes around a place

In a list without repetition each node has one node before it at the most and one after it. When
another node is taken out or put in, these change for its neighbours alone. -/

/-- A node that stands once in a list is at its head only if nothing stands before it. -/
theorem head?_eq_some_iff_nil {m r : List NodeId} {y : NodeId} (h : (m ++ y :: r).Nodup) :
    (m ++ y :: r).head? = some y ↔ m = [] := by
  obtain ⟨hy, -⟩ := List.nodup_cons.1 (List.nodup_middle.1 h)
  cases m with
  | nil => simp
  | cons z m =>
    have hz : z ≠ y := fun hz => hy (by simp [hz])
    simp [hz]

/-- It is at the end only if nothing stands after it. -/
theorem getLast?_eq_some_iff_nil {l m : List NodeId} {y : NodeId} (h : (l ++ y :: m).Nodup) :
    (l ++ y :: m).getLast? = some y ↔ m = [] := by
  have hreverse : (m.reverse ++ y :: l.reverse).Nodup := by
    simpa using List.nodup_reverse.2 h
  rw [← List.head?_reverse, List.reverse_append, List.reverse_cons, List.append_assoc,
    List.singleton_append, head?_eq_some_iff_nil hreverse, List.reverse_eq_nil_iff]

section Place

variable {l r l' r' : List NodeId} {x y : NodeId} {previous next : Option NodeId}

/-- What stands around a node when another one is taken out of its list. -/
theorem siblings_remove (nodup : (l ++ x :: r).Nodup) (split : l ++ r = l' ++ y :: r')
    (sib : ∀ l' r', l ++ x :: r = l' ++ y :: r' → previous = l'.getLast? ∧ next = r'.head?) :
    (if r.head? = some y then l.getLast? else previous) = l'.getLast? ∧
      (if l.getLast? = some y then r.head? else next) = r'.head? := by
  obtain ⟨-, hlr⟩ := List.nodup_cons.1 (List.nodup_middle.1 nodup)
  obtain ⟨hnodupl, hnodupr, apart⟩ := List.nodup_append'.1 hlr
  have hl : y ∈ r → l.getLast? ≠ some y := fun hr hl => apart (List.mem_of_getLast? hl) hr
  have hr : y ∈ l → r.head? ≠ some y := fun hl hr => apart hl (List.mem_of_head? hr)
  rcases List.append_eq_append_iff.1 split with ⟨m, rfl, rfl⟩ | ⟨m, rfl, hm⟩
  · -- `y` stands after the node that goes
    obtain ⟨rfl, rfl⟩ := sib (l ++ x :: m) r' (by simp)
    rw [if_neg (hl (by simp))]
    simp only [head?_eq_some_iff_nil hnodupr]
    cases m <;> simp
  · cases m with
    | nil =>
      -- `y` is the one right after it
      obtain rfl : y :: r' = r := by simpa using hm
      obtain ⟨rfl, rfl⟩ := sib (l' ++ [x]) r' (by simp)
      rw [if_neg (hl (by simp))]
      simp
    | cons z m =>
      -- `y` stands before it
      obtain ⟨rfl, rfl⟩ : y = z ∧ r' = m ++ r := by simpa using hm
      obtain ⟨rfl, rfl⟩ := sib l' (m ++ x :: r) (by simp)
      rw [if_neg (hr (by simp))]
      simp only [getLast?_eq_some_iff_nil hnodupl]
      cases m <;> simp

/-- What stands around a node when another one is put into its list. -/
theorem siblings_insert (nodup : (l ++ x :: r).Nodup) (split : l ++ x :: r = l' ++ y :: r')
    (sib : ∀ l' r', l ++ r = l' ++ y :: r' → previous = l'.getLast? ∧ next = r'.head?) :
    (if y = x then l.getLast? else if r.head? = some y then some x else previous) = l'.getLast? ∧
      (if y = x then r.head? else if l.getLast? = some y then some x else next) = r'.head? := by
  obtain ⟨hx, hlr⟩ := List.nodup_cons.1 (List.nodup_middle.1 nodup)
  obtain ⟨hnodupl, hnodupr, apart⟩ := List.nodup_append'.1 hlr
  have hl : y ∈ r → l.getLast? ≠ some y := fun hr hl => apart (List.mem_of_getLast? hl) hr
  have hr : y ∈ l → r.head? ≠ some y := fun hl hr => apart hl (List.mem_of_head? hr)
  rcases List.append_eq_append_iff.1 split with ⟨m, rfl, hm⟩ | ⟨m, rfl, hm⟩
  · cases m with
    | nil =>
      obtain ⟨rfl, rfl⟩ : x = y ∧ r = r' := by simpa using hm
      simp
    | cons z m =>
      -- `y` stands after the new node
      obtain ⟨rfl, rfl⟩ : x = z ∧ r = m ++ y :: r' := by simpa using hm
      obtain ⟨rfl, rfl⟩ := sib (l ++ m) r' (by simp)
      have hyx : y ≠ x := by
        rintro rfl
        exact hx (by simp)
      rw [if_neg hyx, if_neg hyx, if_neg (hl (by simp))]
      simp only [head?_eq_some_iff_nil hnodupr]
      cases m <;> simp
  · cases m with
    | nil =>
      obtain ⟨rfl, rfl⟩ : y = x ∧ r' = r := by simpa using hm
      simp
    | cons z m =>
      -- `y` stands before the new node
      obtain ⟨rfl, rfl⟩ : y = z ∧ r' = m ++ x :: r := by simpa using hm
      obtain ⟨rfl, rfl⟩ := sib l' (m ++ r) (by simp)
      have hyx : y ≠ x := by
        rintro rfl
        exact hx (by simp)
      rw [if_neg hyx, if_neg hyx, if_neg (hr (by simp))]
      simp only [getLast?_eq_some_iff_nil hnodupl]
      cases m <;> simp

end Place

end Tagdown.Arena
