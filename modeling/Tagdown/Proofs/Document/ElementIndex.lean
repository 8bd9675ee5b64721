import Tagdown.Document.NodeRef
import Tagdown.Proofs.Document.History

/-!
# The place of an element among its siblings

There are two ways to number the elements below a node. `elementChildren` lists them, along the
links to the next sibling, and `elementIndex` counts those before a node, along the links to the
previous one. In a forest both come to the same: the numbers of the listed elements are 1, 2, 3 and
so on (`map_elementIndex_elementChildren`), so that an element is found in the list under its own
number (`elementIndex_agrees`). Texts and comments have numbers too, as if they were elements, but
take none away from the elements after them.
-/

namespace Tagdown.NodeRef

variable {t : Tree} {p x : NodeId} {before after : List NodeId}

theorem elementChildren_eq (t : Tree) (p : NodeId) :
    elementChildren ⟨t, p⟩ = ((t.children p).filter t.isElement).map (NodeRef.mk t) := by
  rw [elementChildren, children, List.filter_map]
  rfl

theorem mem_elementChildren_iff (h : t.IsForest) {e : NodeRef} :
    e ∈ elementChildren ⟨t, p⟩ ↔ e.tree = t ∧ t.parent e.id = some p ∧ t.isElement e.id = true := by
  obtain ⟨u, x⟩ := e
  rw [elementChildren_eq, List.mem_map]
  constructor
  · rintro ⟨y, hy, heq⟩
    obtain ⟨rfl, rfl⟩ := NodeRef.mk.inj heq
    rw [List.mem_filter, h.mem_iff] at hy
    exact ⟨rfl, hy⟩
  · rintro ⟨rfl, hx⟩
    rw [← h.mem_iff, ← List.mem_filter] at hx
    exact ⟨x, hx, rfl⟩

/-- Whatever kind of node it is, the elements before it are counted. -/
theorem elementIndex_of_split (h : t.IsForest) (hsplit : t.children p = before ++ x :: after) :
    elementIndex ⟨t, x⟩ = (before.filter t.isElement).length + 1 := by
  rw [elementIndex, h.precedingSiblings_eq hsplit, List.countP_reverse,
    List.countP_eq_length_filter]

/-- From any child on, the numbers go on from the elements before it. -/
theorem map_elementIndex_from (h : t.IsForest) : ∀ (after before : List NodeId),
    t.children p = before ++ after →
      (after.filter t.isElement).map (fun e => elementIndex ⟨t, e⟩) =
        List.range' ((before.filter t.isElement).length + 1)
          (after.filter t.isElement).length := by
  intro after
  induction after with
  | nil => exact fun _ _ => rfl
  | cons x after ih =>
    intro before hsplit
    have rest := ih (before ++ [x]) (by rw [hsplit, List.append_assoc, List.singleton_append])
    rw [List.filter_append, List.length_append] at rest
    -- an element has its number, and any other node is passed over
    cases hx : t.isElement x with
    | true =>
      rw [List.filter_cons_of_pos hx, List.filter_nil, List.length_singleton] at rest
      rw [List.filter_cons_of_pos hx, List.map_cons, rest, elementIndex_of_split h hsplit,
        List.length_cons, List.range'_succ]
    | false =>
      have hnot : ¬ t.isElement x = true := by simp [hx]
      rw [List.filter_cons_of_neg hnot, List.filter_nil, List.length_nil, Nat.add_zero] at rest
      rw [List.filter_cons_of_neg hnot]
      exact rest

/-- **The elements below a node are numbered without gaps**, from one to their number. Texts and
comments between them do not count. -/
theorem map_elementIndex_elementChildren (h : t.IsForest) (p : NodeId) :
    (elementChildren ⟨t, p⟩).map elementIndex =
      List.range' 1 (elementChildren ⟨t, p⟩).length := by
  rw [elementChildren_eq, List.map_map, List.length_map]
  exact map_elementIndex_from h (t.children p) [] rfl

/-- An element stands in the list at its number, counted from one. -/
theorem getElem?_elementChildren (h : t.IsForest) {e : NodeRef}
    (he : e ∈ elementChildren ⟨t, p⟩) :
    0 < e.elementIndex ∧ (elementChildren ⟨t, p⟩)[e.elementIndex - 1]? = some e := by
  obtain ⟨i, hi⟩ := List.mem_iff_getElem?.1 he
  have hindex : e.elementIndex = i + 1 := by
    have hmap := congrArg (·[i]?) (map_elementIndex_elementChildren h p)
    obtain ⟨hlt, -⟩ := List.getElem?_eq_some_iff.1 hi
    simp only [List.getElem?_map, hi, Option.map_some, List.getElem?_range' hlt] at hmap
    rw [Option.some.inj hmap, Nat.one_mul, Nat.add_comm]
  rw [hindex, Nat.add_sub_cancel]
  exact ⟨Nat.succ_pos i, hi⟩

/-- **The two ways to number elements agree.** An element stands in the list of the elements below
its parent at its number, and the numbers along this list are 1, 2, 3 and so on, so that no two
elements have the same. The number of any other child is one more than there are elements before
it. -/
theorem elementIndex_agrees (h : t.IsForest) (p : NodeId) :
    (∀ e, t.parent e = some p → t.isElement e = true →
      0 < elementIndex ⟨t, e⟩ ∧
        (elementChildren ⟨t, p⟩)[elementIndex ⟨t, e⟩ - 1]? = some ⟨t, e⟩) ∧
    (∀ x, t.parent x = some p → ∃ before after, t.children p = before ++ x :: after ∧
      elementIndex ⟨t, x⟩ = (before.filter t.isElement).length + 1) ∧
    (elementChildren ⟨t, p⟩).map elementIndex =
      List.range' 1 (elementChildren ⟨t, p⟩).length ∧
    ∀ e ∈ elementChildren ⟨t, p⟩, ∀ e' ∈ elementChildren ⟨t, p⟩,
      e.elementIndex = e'.elementIndex → e = e' := by
  refine ⟨fun e hp helement => ?_, fun x hp => ?_, map_elementIndex_elementChildren h p, ?_⟩
  · exact getElem?_elementChildren h ((mem_elementChildren_iff h).2 ⟨rfl, hp, helement⟩)
  · obtain ⟨before, after, hsplit⟩ := List.append_of_mem (h.mem_iff.2 hp)
    exact ⟨before, after, hsplit, elementIndex_of_split h hsplit⟩
  · intro e he e' he' hsame
    have found := (getElem?_elementChildren h he).2
    rw [hsame, (getElem?_elementChildren h he').2] at found
    exact (Option.some.inj found).symm

/-- Two items of a list, with a text before the first and a comment between the two. -/
def remarks : Tree :=
  Tree.empty.run
    [.createElement "ul" [], .append Tree.root ⟨1⟩, .createText "\n", .append ⟨1⟩ ⟨2⟩,
     .createElement "li" [], .append ⟨1⟩ ⟨3⟩, .createComment "-", .append ⟨1⟩ ⟨4⟩,
     .createElement "li" [], .append ⟨1⟩ ⟨5⟩]

theorem elementIndex_agrees_remarks :
    remarks.IsForest ∧ remarks.parent ⟨5⟩ = some ⟨1⟩ ∧ remarks.isElement ⟨5⟩ = true ∧
      elementIndex ⟨remarks, ⟨5⟩⟩ = 2 ∧
      (elementChildren ⟨remarks, ⟨1⟩⟩)[elementIndex ⟨remarks, ⟨5⟩⟩ - 1]? = some ⟨remarks, ⟨5⟩⟩ ∧
      (elementChildren ⟨remarks, ⟨1⟩⟩).map elementIndex = [1, 2] ∧
      ∃ before after, remarks.children ⟨1⟩ = before ++ ⟨4⟩ :: after ∧
        elementIndex ⟨remarks, ⟨4⟩⟩ = (before.filter remarks.isElement).length + 1 := by
  have h : remarks.IsForest :=
    (Tree.WellFormed.run _ Tree.wellFormed_empty
      (Tree.allAllowed_of_areAllowed (by decide +kernel))).forest
  have links : remarks.parent ⟨5⟩ = some ⟨1⟩ ∧ remarks.parent ⟨4⟩ = some ⟨1⟩ ∧
      remarks.isElement ⟨5⟩ = true ∧ elementIndex ⟨remarks, ⟨5⟩⟩ = 2 ∧
      (elementChildren ⟨remarks, ⟨1⟩⟩).length = 2 := by
    decide +kernel
  obtain ⟨hitem, hcomment, helement, hindex, hlength⟩ := links
  obtain ⟨listed, counted, numbers, -⟩ := elementIndex_agrees h ⟨1⟩
  refine ⟨h, hitem, helement, hindex, (listed ⟨5⟩ hitem helement).2, ?_, counted ⟨4⟩ hcomment⟩
  rw [numbers, hlength]
  rfl

end Tagdown.NodeRef
