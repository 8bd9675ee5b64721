import Tagdown.Proofs.Arena.Edits

/-!
# The edits as edits of lists of children

A forest is known by the list of children of each of its nodes. Seen in this way, an edit of the
links takes one node out of the list that it stands in, and puts it, or its own children, into one
place of one list (`edits_refine_lists`). `Relisted a b kids` says that nothing else happened: `b`
is the forest with the lists `kids`, down to each single link, and its nodes hold what those of `a`
hold.

A node that is moved goes from its old place first. So the place that it comes to is one in the
lists without it, which are those of `detach`.
-/

namespace Tagdown.Arena

open Function (update)

variable {α : Type} {a b : Arena α}

/-- `b` has the nodes of `a`, and is the forest in which the children of `p` are `kids p`. -/
structure Relisted (a b : Arena α) (kids : NodeId → List NodeId) : Prop where
  forest : b.IsForest
  children_eq : b.children = kids
  size_eq : b.size = a.size
  payload?_eq : ∀ x, b.payload? x = a.payload? x

namespace IsForest

variable (h : a.IsForest)
include h

/-- Whatever has a parent stands at some place of its list. -/
theorem exists_split {p x : NodeId} (hx : a.parent x = some p) :
    ∃ l r, a.children p = l ++ x :: r :=
  List.append_of_mem (h.mem_iff.2 hx)

/-- A node other than the one that is taken out keeps its parent, and stands in the list that is
left. -/
theorem exists_split_detach {p x y : NodeId} (hne : x ≠ y) (hx : a.parent x = some p) :
    ∃ l r, (a.detach y).children p = l ++ x :: r := by
  refine (h.detach y).exists_split ?_
  rw [h.parent_detach, if_neg hne]
  exact hx

/-- A node that is detached stands nowhere. -/
theorem parent_detach_self (x : NodeId) : (a.detach x).parent x = none := by
  rw [h.parent_detach, if_pos rfl]

/-! ## One edit after the other

Each of these lemmas is one edit: the list that it changes is given as what stands before and
after the place, in the form that `edits_refine_lists` has. -/

/-- To detach what stands nowhere changes no list. -/
theorem relisted_detach_of_orphan {x : NodeId} (hx : a.parent x = none) :
    Relisted a (a.detach x) a.children where
  forest := h.detach x
  children_eq := by
    rw [← h.splice_eq_of_orphan hx []]
    exact funext (h.children_detach x)
  size_eq := size_detach a x
  payload?_eq := payload?_detach a x

/-- Otherwise the two parts of the list close up. -/
theorem relisted_detach {p x : NodeId} {l r : List NodeId} (hkids : a.children p = l ++ x :: r) :
    Relisted a (a.detach x) (update a.children p (l ++ r)) where
  forest := h.detach x
  children_eq := by
    rw [← List.nil_append r, ← h.splice_eq_update hkids]
    exact funext (h.children_detach x)
  size_eq := size_detach a x
  payload?_eq := payload?_detach a x

/-- The list that it comes to is read after the detachment, since it may be the one that it was
in. -/
theorem relisted_append {p c : NodeId} (hp : p.index < a.size) (hc : c.index < a.size)
    (hne : p ≠ c) (hbelow : ¬ a.Below c p) :
    Relisted a (a.append p c)
      (update (a.detach c).children p ((a.detach c).children p ++ [c])) where
  forest := h.append hp hc hne hbelow
  children_eq := by
    funext q
    rw [h.children_append hp hc, Function.update_apply, h.children_detach, h.children_detach]
  size_eq := size_append a p c
  payload?_eq := payload?_append a p c

/-- Its place is found in the list without it, next to the reference. -/
theorem relisted_insertBefore {p r n : NodeId} {l s : List NodeId} (hne : r ≠ n)
    (hn : n.index < a.size) (hbelow : ¬ a.Below n r)
    (hkids : (a.detach n).children p = l ++ r :: s) :
    Relisted a (a.insertBefore r n) (update (a.detach n).children p (l ++ n :: r :: s)) where
  forest := h.insertBefore hn hbelow
  children_eq := by
    have place := (h.detach n).splice_eq_update hkids [n, r]
    rw [List.cons_append, List.singleton_append] at place
    rw [← place]
    funext q
    rw [h.children_insertBefore hne hn, h.children_detach]
  size_eq := size_insertBefore a r n
  payload?_eq := payload?_insertBefore a r n

/-- The new node stands where the old one stood, -/
theorem relisted_replace {p o n : NodeId} {l s : List NodeId} (hne : o ≠ n)
    (ho : a.parent o = some p) (hn : n.index < a.size) (hbelow : ¬ a.Below n o)
    (hkids : (a.detach n).children p = l ++ o :: s) :
    Relisted a (a.replace o n) (update (a.detach n).children p (l ++ n :: s)) where
  forest := h.replace hn hbelow
  children_eq := by
    have place := (h.detach n).splice_eq_update hkids [n]
    rw [List.singleton_append] at place
    rw [← place]
    funext q
    rw [h.children_replace hne (by rw [ho]; exact Option.some_ne_none p) hn, h.children_detach]
  size_eq := size_replace a o n
  payload?_eq := payload?_replace a o n

/-- and the old one stands nowhere. -/
theorem parent_replace_self {o n : NodeId} (hne : o ≠ n) (ho : a.parent o ≠ none)
    (hn : n.index < a.size) (hbelow : ¬ a.Below n o) : (a.replace o n).parent o = none := by
  rw [Arena.replace, if_neg (by simp [hne, ho])]
  exact (h.insertBefore hn hbelow).parent_detach_self o

/-- Two lists change: the one that the node stood in, and its own. -/
theorem relisted_unwrap {p x : NodeId} {l s : List NodeId} (hkids : a.children p = l ++ x :: s) :
    Relisted a (a.unwrap x) (update (update a.children p (l ++ a.children x ++ s)) x []) where
  forest := h.unwrap x
  children_eq := by
    have hp : a.parent x ≠ none := by
      rw [h.parent_of_split hkids]
      exact Option.some_ne_none p
    rw [List.append_assoc, ← h.splice_eq_update hkids]
    funext q
    rw [h.children_unwrap hp, Function.update_apply]
  size_eq := size_unwrap a x
  payload?_eq := payload?_unwrap a x

/-- The node itself is left without a place, as with `replace`. -/
theorem parent_unwrap_self {x : NodeId} (hx : a.parent x ≠ none) :
    (a.unwrap x).parent x = none := by
  rw [Arena.unwrap, if_neg (by simpa using hx)]
  exact (foldl_insertBefore (a.children x) a h rfl).parent_detach_self x

end IsForest

/-! ## All of them

The five together, with what each asks for: that what is placed is in the arena, and does not
stand above the place that it comes to. -/

/-- **The edits are edits of lists.** A node that is taken out goes from the list of its parent. To
append puts it at the end of a list, to insert it before another node puts it right before that
node, and to replace a node puts it into the place of that node, which then stands nowhere. When a
node is unwrapped, its children stand in its place, in their order, and it has neither a parent nor
children. No other list changes, and no node holds anything else than before.

What is placed is to be a node of the arena, and not to come to stand under itself. -/
theorem edits_refine_lists (h : a.IsForest) :
    (∀ x, (a.detach x).parent x = none ∧
      (a.parent x = none → Relisted a (a.detach x) a.children) ∧
      ∀ p, a.parent x = some p → ∃ l r, a.children p = l ++ x :: r ∧
        Relisted a (a.detach x) (update a.children p (l ++ r))) ∧
    (∀ p c, p.index < a.size → c.index < a.size → p ≠ c → ¬ a.Below c p →
      Relisted a (a.append p c)
        (update (a.detach c).children p ((a.detach c).children p ++ [c]))) ∧
    (∀ r n p, n.index < a.size → n ≠ r → ¬ a.Below n r → a.parent r = some p →
      ∃ l s, (a.detach n).children p = l ++ r :: s ∧
        Relisted a (a.insertBefore r n) (update (a.detach n).children p (l ++ n :: r :: s))) ∧
    (∀ o r p, r.index < a.size → r ≠ o → ¬ a.Below r o → a.parent o = some p →
      (a.replace o r).parent o = none ∧
      ∃ l s, (a.detach r).children p = l ++ o :: s ∧
        Relisted a (a.replace o r) (update (a.detach r).children p (l ++ r :: s))) ∧
    (∀ x p, a.parent x = some p →
      (a.unwrap x).parent x = none ∧
      ∃ l s, a.children p = l ++ x :: s ∧
        Relisted a (a.unwrap x) (update (update a.children p (l ++ a.children x ++ s)) x [])) := by
  -- detach, append, insert before, replace, unwrap
  refine ⟨?_, ?_, ?_, ?_, ?_⟩
  · intro x
    refine ⟨h.parent_detach_self x, h.relisted_detach_of_orphan, fun p hp => ?_⟩
    obtain ⟨l, r, hkids⟩ := h.exists_split hp
    exact ⟨l, r, hkids, h.relisted_detach hkids⟩
  · intro p c hp hc hne hbelow
    exact h.relisted_append hp hc hne hbelow
  · intro r n p hn hne hbelow hp
    obtain ⟨l, s, hkids⟩ := h.exists_split_detach (Ne.symm hne) hp
    exact ⟨l, s, hkids, h.relisted_insertBefore (Ne.symm hne) hn hbelow hkids⟩
  · intro o r p hr hne hbelow hp
    have attached : a.parent o ≠ none := by
      rw [hp]
      exact Option.some_ne_none p
    obtain ⟨l, s, hkids⟩ := h.exists_split_detach (Ne.symm hne) hp
    exact ⟨h.parent_replace_self (Ne.symm hne) attached hr hbelow, l, s, hkids,
      h.relisted_replace (Ne.symm hne) hp hr hbelow hkids⟩
  · intro x p hp
    have attached : a.parent x ≠ none := by
      rw [hp]
      exact Option.some_ne_none p
    obtain ⟨l, s, hkids⟩ := h.exists_split hp
    exact ⟨h.parent_unwrap_self attached, l, s, hkids, h.relisted_unwrap hkids⟩

/-- Five nodes that stand nowhere. -/
def strangers : Arena Unit :=
  ⟨Array.replicate 5 { payload := () }⟩

/-- A node with two children, the second of which has two children itself. -/
def family : Arena Unit :=
  (((strangers.append ⟨0⟩ ⟨1⟩).append ⟨0⟩ ⟨2⟩).append ⟨2⟩ ⟨3⟩).append ⟨2⟩ ⟨4⟩

theorem isForest_strangers : strangers.IsForest := by
  refine isForest_of_links_eq_empty fun x => ?_
  simp only [links, strangers, Array.getElem?_replicate]
  split <;> rfl

theorem isForest_family : family.IsForest := by
  -- each node is placed under one that is not below it
  refine (((isForest_strangers.append_of_avoids ?_ ?_ ?_ ?_).append_of_avoids ?_ ?_ ?_ ?_
    ).append_of_avoids ?_ ?_ ?_ ?_).append_of_avoids ?_ ?_ ?_ ?_
  all_goals decide

theorem edits_refine_lists_family :
    family.parent ⟨2⟩ = some ⟨0⟩ ∧ ¬ family.Below ⟨3⟩ ⟨2⟩ ∧
      (∃ l r, family.children ⟨0⟩ = l ++ ⟨2⟩ :: r ∧
        Relisted family (family.detach ⟨2⟩) (update family.children ⟨0⟩ (l ++ r))) ∧
      Relisted family (family.append ⟨2⟩ ⟨3⟩)
        (update (family.detach ⟨3⟩).children ⟨2⟩ ((family.detach ⟨3⟩).children ⟨2⟩ ++ [⟨3⟩])) ∧
      (∃ l s, (family.detach ⟨3⟩).children ⟨0⟩ = l ++ ⟨2⟩ :: s ∧
        Relisted family (family.insertBefore ⟨2⟩ ⟨3⟩)
          (update (family.detach ⟨3⟩).children ⟨0⟩ (l ++ ⟨3⟩ :: ⟨2⟩ :: s))) ∧
      (family.replace ⟨2⟩ ⟨3⟩).parent ⟨2⟩ = none ∧
      (family.unwrap ⟨2⟩).parent ⟨2⟩ = none := by
  obtain ⟨detach, append, insertBefore, replace, unwrap⟩ := edits_refine_lists isForest_family
  have attached : family.parent ⟨2⟩ = some ⟨0⟩ := by decide
  have free : ¬ family.Below ⟨3⟩ ⟨2⟩ :=
    not_below_of_avoids (show family.avoids ⟨3⟩ 5 ⟨2⟩ = true by decide)
  refine ⟨attached, free, ?_, ?_, ?_, ?_, ?_⟩
  · exact (detach ⟨2⟩).2.2 ⟨0⟩ attached
  · exact append ⟨2⟩ ⟨3⟩ (by decide) (by decide) (by decide) free
  · exact insertBefore ⟨2⟩ ⟨3⟩ ⟨0⟩ (by decide) (by decide) free attached
  · exact (replace ⟨2⟩ ⟨3⟩ ⟨0⟩ (by decide) (by decide) free attached).1
  · exact (unwrap ⟨2⟩ ⟨0⟩ attached).1

end Tagdown.Arena
