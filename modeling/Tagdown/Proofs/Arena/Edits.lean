import Tagdown.Proofs.Arena.Splice

/-!
# What the edits do to a forest

Two kinds of change make up all edits: a node goes from its list (`Represents.remove`), and a
node that stands nowhere is put into a list (`Represents.insert`). Everything about single
links is settled there. From then on an edit is what it does to lists of children:

* `Represents.detach` — nothing stands in the place of the node;
* `Represents.append` — the node goes from its place, and stands last below its new parent;
* `Represents.insertBefore` — the node goes from its place, and the two stand in the place of
  the one that it was put before;
* `Represents.replace` and `Represents.unwrap` — put together from these.
-/

namespace Tagdown.Arena

variable {α : Type} {a b : Arena α} {kids : NodeId → List NodeId}

/-! ## The two halves of a link between neighbours

A place between two neighbours has a link on each of its sides, and either side may be the end of
the list, in which case it is the parent that has the link. `setAfter` and `setBefore` write one
side each. An edit is such a pair and a change of the links of the node itself. -/

/-- Set what stands right after `previous` below `parent`: its next sibling, or the first child
if there is nothing before. -/
def setAfter (a : Arena α) (parent previous next : Option NodeId) : Arena α :=
  match previous with
  | some previous => a.relink previous ({ · with nextSibling := next })
  | none => a.relink? parent ({ · with firstChild := next })

/-- Set what stands right before `next` below `parent`: its previous sibling, or the last child
if there is nothing after. -/
def setBefore (a : Arena α) (parent next previous : Option NodeId) : Arena α :=
  match next with
  | some next => a.relink next ({ · with previousSibling := previous })
  | none => a.relink? parent ({ · with lastChild := previous })

/-- The node, if there is one, is in the arena. -/
def Has? (a : Arena α) (id? : Option NodeId) : Prop :=
  ∀ x, id? = some x → x.index < a.size

@[simp] theorem size_setAfter (parent previous next : Option NodeId) :
    (a.setAfter parent previous next).size = a.size := by
  cases previous <;> simp [setAfter]

/-- Links change and no node comes or goes, so the side conditions of one half of an edit carry
over to the other. -/
@[simp] theorem has?_setAfter {parent previous next id? : Option NodeId} :
    (a.setAfter parent previous next).Has? id? ↔ a.Has? id? := by
  simp [Has?]

theorem has?_none (a : Arena α) : a.Has? none := by
  simp [Has?]

@[simp] theorem has?_relink {id : NodeId} {f : Links → Links} {id? : Option NodeId} :
    (a.relink id f).Has? id? ↔ a.Has? id? := by
  simp [Has?]

@[simp] theorem size_setBefore (parent next previous : Option NodeId) :
    (a.setBefore parent next previous).size = a.size := by
  cases next <;> simp [setBefore]

@[simp] theorem has?_setBefore {parent next previous id? : Option NodeId} :
    (a.setBefore parent next previous).Has? id? ↔ a.Has? id? := by
  simp [Has?]

/-- One of two links is written: the next sibling of what stands before, or the first child of the
parent when nothing does. -/
theorem links_setAfter {parent previous next : Option NodeId} (hparent : a.Has? parent)
    (hprevious : a.Has? previous) (x : NodeId) :
    (a.setAfter parent previous next).links x =
      { a.links x with
        firstChild := if parent = some x ∧ previous = none then next else (a.links x).firstChild
        nextSibling := if previous = some x then next else (a.links x).nextSibling } := by
  rcases previous with _ | y
  · rcases parent with _ | p
    · simp [setAfter, relink?]
    · simp only [setAfter, relink?, links_relink a (hparent p rfl)]
      by_cases hx : x = p
      · simp [hx]
      · simp [hx, Ne.symm hx]
  · simp only [setAfter, links_relink a (hprevious y rfl)]
    by_cases hx : x = y
    · simp [hx]
    · simp [hx, Ne.symm hx]

/-- From the other side: the previous sibling of what stands after, or the last child of the
parent. -/
theorem links_setBefore {parent next previous : Option NodeId} (hparent : a.Has? parent)
    (hnext : a.Has? next) (x : NodeId) :
    (a.setBefore parent next previous).links x =
      { a.links x with
        lastChild := if parent = some x ∧ next = none then previous else (a.links x).lastChild
        previousSibling := if next = some x then previous else (a.links x).previousSibling } := by
  rcases next with _ | y
  · rcases parent with _ | p
    · simp [setBefore, relink?]
    · simp only [setBefore, relink?, links_relink a (hparent p rfl)]
      by_cases hx : x = p
      · simp [hx]
      · simp [hx, Ne.symm hx]
  · simp only [setBefore, links_relink a (hnext y rfl)]
    by_cases hx : x = y
    · simp [hx]
    · simp [hx, Ne.symm hx]

/-! ## The children of one node change

Of an arena that represents a forest one list is replaced. `Represents.update` names all that has
to be known of the links for this; `Represents.remove` and `Represents.insert` are the two cases
that there are. -/

/-- New children for `p` alone: what is to be known of the links is that they name these, that
a node which is no child of `p` any more stands nowhere, and that all others are as they were. -/
theorem Represents.update (h : a.Represents kids) {p : NodeId} {ys : List NodeId}
    (nodup : ys.Nodup) (here : ∀ y, y ∈ ys ↔ b.parent y = some p)
    (elsewhere : ∀ q y, q ≠ p → (b.parent y = some q ↔ a.parent y = some q))
    (first : ∀ q, b.firstChild q = if q = p then ys.head? else a.firstChild q)
    (last : ∀ q, b.lastChild q = if q = p then ys.getLast? else a.lastChild q)
    (siblings : ∀ l y r, ys = l ++ y :: r →
      b.previousSibling y = l.getLast? ∧ b.nextSibling y = r.head?)
    (gone : ∀ y, y ∈ kids p → y ∉ ys → b.previousSibling y = none ∧ b.nextSibling y = none)
    (away : ∀ y, y ∉ kids p → y ∉ ys →
      b.previousSibling y = a.previousSibling y ∧ b.nextSibling y = a.nextSibling y) :
    b.Represents (Function.update kids p ys) := by
  constructor
  · intro q
    rcases eq_or_ne q p with rfl | hq
    · rwa [Function.update_self]
    · rw [Function.update_of_ne hq]
      exact h.nodup q
  · intro q y
    rcases eq_or_ne q p with rfl | hq
    · rw [Function.update_self]
      exact here y
    · rw [Function.update_of_ne hq, elsewhere q y hq]
      exact h.mem_iff
  · intro q
    rw [first]
    rcases eq_or_ne q p with rfl | hq
    · rw [if_pos rfl, Function.update_self]
    · rw [if_neg hq, Function.update_of_ne hq]
      exact h.first q
  · intro q
    rw [last]
    rcases eq_or_ne q p with rfl | hq
    · rw [if_pos rfl, Function.update_self]
    · rw [if_neg hq, Function.update_of_ne hq]
      exact h.last q
  · intro q l y r hsplit
    rcases eq_or_ne q p with rfl | hq
    · rw [Function.update_self] at hsplit
      exact siblings l y r hsplit
    · rw [Function.update_of_ne hq] at hsplit
      have hy : y ∈ kids q := by rw [hsplit]; simp
      have hkids : y ∉ kids p := fun hyp => hq (h.parent_unique hy hyp)
      have hys : y ∉ ys := by
        rw [here, (elsewhere q y hq).2 (h.mem_iff.1 hy)]
        exact fun hqp => hq (Option.some.inj hqp)
      obtain ⟨hprevious, hnext⟩ := away y hkids hys
      rw [hprevious, hnext]
      exact h.siblings hsplit
  · intro y hy
    have hys : y ∉ ys := by
      rw [here, hy]
      exact fun hnone => by cases hnone
    by_cases hkids : y ∈ kids p
    · exact gone y hkids hys
    -- it stood nowhere before, or the change would have left it below its parent
    · obtain ⟨hprevious, hnext⟩ := away y hkids hys
      rw [hprevious, hnext]
      refine h.orphan (Option.eq_none_iff_forall_ne_some.2 fun q hq => ?_)
      rcases eq_or_ne q p with rfl | hqp
      · exact hkids (h.mem_iff.2 hq)
      · rw [(elsewhere q y hqp).2 hq] at hy
        cases hy

/-- A node that is not in a list is neither at its head nor at its end. -/
theorem ne_neighbours {l r : List NodeId} {y : NodeId} (hy : y ∉ l ++ r) :
    r.head? ≠ some y ∧ l.getLast? ≠ some y := by
  rw [List.mem_append, not_or] at hy
  exact ⟨fun hr => hy.2 (List.mem_of_head? hr), fun hl => hy.1 (List.mem_of_getLast? hl)⟩

/-- **Removal**: the links after `x` was taken from between `l` and `r` represent the forest without
it. The hypothesis on the links is what a detachment leaves, written out for every node at once. -/
theorem Represents.remove (h : a.Represents kids) {p x : NodeId} {l r : List NodeId}
    (hkids : kids p = l ++ x :: r) (links : ∀ y, b.links y =
      { parent := if y = x then none else a.parent y
        firstChild := if y = p ∧ l.getLast? = none then r.head? else a.firstChild y
        lastChild := if y = p ∧ r.head? = none then l.getLast? else a.lastChild y
        previousSibling := if y = x then none
          else if r.head? = some y then l.getLast? else a.previousSibling y
        nextSibling := if y = x then none
          else if l.getLast? = some y then r.head? else a.nextSibling y }) :
    b.Represents (Function.update kids p (l ++ r)) := by
  have hnodup := h.nodup p
  rw [hkids] at hnodup
  obtain ⟨hx, hlr⟩ := List.nodup_cons.1 (List.nodup_middle.1 hnodup)
  have hmem : ∀ y, y ∈ kids p ↔ y = x ∨ y ∈ l ++ r := by
    intro y
    rw [hkids]
    exact List.perm_middle.mem_iff.trans List.mem_cons
  -- the new list has its parents right, and its two ends; what is left is the links between
  -- siblings: of those that stay, of `x`, and of all others
  refine h.update hlr ?_ ?_ ?_ ?_ ?_ ?_ ?_
  · intro y
    rw [parent, links]
    rcases eq_or_ne y x with rfl | hy
    · simpa using hx
    · rw [if_neg hy, ← h.mem_iff, hmem, or_iff_right hy]
  · intro q y hq
    rw [parent, links]
    rcases eq_or_ne y x with rfl | hy
    · rw [if_pos rfl, h.parent_of_split hkids]
      simp [Ne.symm hq]
    · rw [if_neg hy]
  · intro q
    rw [firstChild, links]
    rcases eq_or_ne q p with rfl | hq
    · simp only [h.first, hkids]
      cases l <;> simp
    · simp only [hq, false_and, if_false]
  · intro q
    rw [lastChild, links]
    rcases eq_or_ne q p with rfl | hq
    · simp only [h.last, hkids]
      cases r <;> simp
    · simp only [hq, false_and, if_false]
  · intro l' y r' hsplit
    -- neighbours in the new list were neighbours, or stood on the two sides of `x`
    have hyx : y ≠ x := fun he => hx (by rw [hsplit, ← he]; simp)
    rw [previousSibling, nextSibling, links]
    simp only [if_neg hyx]
    exact siblings_remove hnodup hsplit fun l' r' hl' => h.siblings (hkids.trans hl')
  · intro y hy hlr
    obtain rfl : y = x := ((hmem y).1 hy).resolve_right hlr
    rw [previousSibling, nextSibling, links]
    simp
  · intro y hy hlr
    have hyx : y ≠ x := fun he => hy ((hmem y).2 (Or.inl he))
    -- a node of another list is next to neither side of the gap
    obtain ⟨hhead, hlast⟩ := ne_neighbours hlr
    rw [previousSibling, nextSibling, links]
    simp only [if_neg hyx, if_neg hhead, if_neg hlast, and_self]

/-- **Insertion**: the links after `x`, which stood nowhere, was put between `l` and `r` represent
the forest with it. Together with a removal this makes every edit that there is: an append, an
insertion and a replacement take a node out first. -/
theorem Represents.insert (h : a.Represents kids) {p x : NodeId} {l r : List NodeId}
    (hx : a.parent x = none) (hkids : kids p = l ++ r) (links : ∀ y, b.links y =
      { parent := if y = x then some p else a.parent y
        firstChild := if y = p ∧ l.getLast? = none then some x else a.firstChild y
        lastChild := if y = p ∧ r.head? = none then some x else a.lastChild y
        previousSibling := if y = x then l.getLast?
          else if r.head? = some y then some x else a.previousSibling y
        nextSibling := if y = x then r.head?
          else if l.getLast? = some y then some x else a.nextSibling y }) :
    b.Represents (Function.update kids p (l ++ x :: r)) := by
  have free : x ∉ l ++ r := by
    rw [← hkids, h.mem_iff, hx]
    exact fun hnone => by cases hnone
  have hnodup : (l ++ x :: r).Nodup :=
    List.nodup_middle.2 (List.nodup_cons.2 ⟨free, hkids ▸ h.nodup p⟩)
  have hmem : ∀ y, y ∈ l ++ x :: r ↔ y = x ∨ y ∈ kids p := by
    intro y
    rw [hkids]
    exact List.perm_middle.mem_iff.trans List.mem_cons
  -- the same seven facts, with one more child where there was one less
  refine h.update hnodup ?_ ?_ ?_ ?_ ?_ ?_ ?_
  · intro y
    rw [parent, links, hmem]
    rcases eq_or_ne y x with rfl | hy
    · simp
    · rw [if_neg hy, ← h.mem_iff, or_iff_right hy]
  · intro q y hq
    rw [parent, links]
    rcases eq_or_ne y x with rfl | hy
    · rw [if_pos rfl, hx]
      simp [Ne.symm hq]
    · rw [if_neg hy]
  · intro q
    rw [firstChild, links]
    rcases eq_or_ne q p with rfl | hq
    · simp only [h.first, hkids]
      cases l <;> simp
    · simp only [hq, false_and, if_false]
  · intro q
    rw [lastChild, links]
    rcases eq_or_ne q p with rfl | hq
    · simp only [h.last, hkids]
      cases r <;> simp
    · simp only [hq, false_and, if_false]
  · intro l' y r' hsplit
    rw [previousSibling, nextSibling, links]
    exact siblings_insert hnodup hsplit fun l' r' hl' => h.siblings (hkids.trans hl')
  · intro y hy hys
    -- nothing has left the list
    exact absurd ((hmem y).2 (Or.inr hy)) hys
  · intro y hy hys
    have hyx : y ≠ x := fun he => hys ((hmem y).2 (Or.inl he))
    obtain ⟨hhead, hlast⟩ := ne_neighbours (hkids ▸ hy)
    rw [previousSibling, nextSibling, links]
    simp only [if_neg hyx, if_neg hhead, if_neg hlast, and_self]

/-! ## The edits, list by list

Each edit is opened once, down to its links, and from then on it is a function on lists: `splice`
with nothing in the place of a node, with the node and its reference, or with its children. -/

/-- A change that leaves no links as they are may be made of any node, in the arena or not. -/
theorem links_relink_of_empty {f : Links → Links} (hf : f {} = {}) (id x : NodeId) :
    (a.relink id f).links x = if x = id then f (a.links id) else a.links x := by
  rcases Nat.lt_or_ge id.index a.size with hid | hid
  · exact links_relink a hid f x
  · have hslot : a.slots[id.index]? = none := Array.getElem?_eq_none hid
    rw [links_eq_empty hid, hf]
    obtain ⟨i⟩ := id
    obtain ⟨j⟩ := x
    simp only [links, relink, Array.getElem?_modify, NodeId.mk.injEq, eq_comm (a := i)]
    split
    · rename_i hx
      subst hx
      rw [hslot]
      rfl
    · rfl

/-- A record of links, read field by field, so that a claim on the record is one on its five
fields. -/
theorem links_eq (a : Arena α) (x : NodeId) :
    a.links x = { parent := a.parent x, firstChild := a.firstChild x, lastChild := a.lastChild x,
                  previousSibling := a.previousSibling x, nextSibling := a.nextSibling x } :=
  rfl

/-- Taking a node out closes its gap from both sides and then clears its own links. -/
theorem detach_eq (a : Arena α) (id : NodeId) :
    a.detach id =
      ((a.setAfter (a.parent id) (a.previousSibling id) (a.nextSibling id)).setBefore (a.parent id)
        (a.nextSibling id) (a.previousSibling id)).relink id
          ({ · with parent := none, previousSibling := none, nextSibling := none }) :=
  rfl

/-- Appending is a detachment followed by one new link on each side of the gap after the last
child. -/
theorem append_eq (a : Arena α) (p c : NodeId) :
    a.append p c =
      (((a.detach c).relink c ({ · with
        parent := some p, previousSibling := (a.detach c).lastChild p, nextSibling := none })).setAfter
          (some p) ((a.detach c).lastChild p) (some c)).setBefore (some p) none (some c) := by
  rw [Arena.append]
  cases (a.detach c).lastChild p <;> rfl

/-- The parent is read after the detachment, which is where the reference may have lost it. -/
theorem insertBefore_eq (a : Arena α) {r n p : NodeId} (hne : r ≠ n)
    (hp : (a.detach n).parent r = some p) :
    a.insertBefore r n =
      (((a.detach n).relink n ({ · with
        parent := some p, previousSibling := (a.detach n).previousSibling r,
        nextSibling := some r })).setBefore (some p) (some r) (some n)).setAfter
          (some p) ((a.detach n).previousSibling r) (some n) := by
  rw [Arena.insertBefore, if_neg hne]
  simp only [hp]
  cases (a.detach n).previousSibling r <;> rfl

namespace Represents

/-- What a represented arena links to is in the arena, which is what the two halves of an edit ask
for. -/
theorem has?_parent (h : a.Represents kids) (id : NodeId) : a.Has? (a.parent id) := by
  intro p hp
  exact h.parent_lt (h.mem_iff.2 hp)

theorem has?_previousSibling (h : a.Represents kids) (id : NodeId) :
    a.Has? (a.previousSibling id) := by
  intro y hy
  obtain ⟨p, l, r, hkids⟩ := h.of_previousSibling hy
  exact h.child_lt (p := p) (by rw [hkids]; simp)

theorem has?_nextSibling (h : a.Represents kids) (id : NodeId) : a.Has? (a.nextSibling id) := by
  intro y hy
  obtain ⟨p, l, r, hkids⟩ := h.of_nextSibling hy
  exact h.child_lt (p := p) (by rw [hkids]; simp)

/-- A node stands in one list only, so to change its place changes that list only. -/
theorem splice_eq_update (h : a.Represents kids) {p x : NodeId} {l r : List NodeId}
    (hkids : kids p = l ++ x :: r) (ys : List NodeId) :
    (fun q => splice x ys (kids q)) = Function.update kids p (l ++ (ys ++ r)) := by
  funext q
  rcases eq_or_ne q p with rfl | hq
  · rw [Function.update_self, hkids]
    exact splice_middle (hkids ▸ h.nodup q) ys
  · rw [Function.update_of_ne hq]
    refine splice_eq_self ?_ ys
    intro hx
    exact hq (h.parent_unique hx (by rw [hkids]; simp))

/-- A node that stands nowhere is in no list. -/
theorem splice_eq_of_orphan (h : a.Represents kids) {x : NodeId} (hx : a.parent x = none)
    (ys : List NodeId) : (fun q => splice x ys (kids q)) = kids := by
  funext q
  refine splice_eq_self ?_ ys
  rw [h.mem_iff, hx]
  simp

/-- The links of every node after one was taken out. -/
theorem links_detach (h : a.Represents kids) (x y : NodeId) :
    (a.detach x).links y =
      { parent := if y = x then none else a.parent y
        firstChild := if a.parent x = some y ∧ a.previousSibling x = none
          then a.nextSibling x else a.firstChild y
        lastChild := if a.parent x = some y ∧ a.nextSibling x = none
          then a.previousSibling x else a.lastChild y
        previousSibling := if y = x then none
          else if a.nextSibling x = some y then a.previousSibling x else a.previousSibling y
        nextSibling := if y = x then none
          else if a.previousSibling x = some y then a.nextSibling x else a.nextSibling y } := by
  have hparent := h.has?_parent x
  rw [detach_eq, links_relink_of_empty rfl]
  simp only [links_setBefore (has?_setAfter.2 hparent) (has?_setAfter.2 (h.has?_nextSibling x)),
    links_setAfter hparent (h.has?_previousSibling x)]
  rcases eq_or_ne y x with rfl | hy
  · simp only [if_pos]
    rfl
  · simp only [if_neg hy]
    rfl

/-- **Detach**: nothing stands in the place of the node. -/
theorem detach (h : a.Represents kids) (x : NodeId) :
    (a.detach x).Represents fun p => splice x [] (kids p) := by
  rcases hp : a.parent x with _ | p
  · obtain ⟨hprevious, hnext⟩ := h.orphan hp
    rw [h.splice_eq_of_orphan hp]
    refine h.of_links_eq fun y => ?_
    rw [h.links_detach, hp, hprevious, hnext]
    rcases eq_or_ne y x with rfl | hy
    · simp only [reduceCtorEq, false_and, if_false, if_true]
      rw [links_eq a y, hp, hprevious, hnext]
    · simp only [reduceCtorEq, false_and, if_false, if_neg hy]
      rfl
  · obtain ⟨l, r, hkids⟩ := List.append_of_mem (h.mem_iff.2 hp)
    obtain ⟨hprevious, hnext⟩ := h.siblings hkids
    rw [h.splice_eq_update hkids]
    refine h.remove hkids fun y => ?_
    rw [h.links_detach, hp, hprevious, hnext]
    simp only [Option.some.injEq, eq_comm (a := y) (b := p), List.nil_append]

/-- Nothing but the detached node loses its parent. -/
theorem parent_detach (h : a.Represents kids) (x y : NodeId) :
    (a.detach x).parent y = if y = x then none else a.parent y := by
  rw [parent, h.links_detach]

/-- **Append**: the node goes from its place, and stands last below its new parent. It may have been
a child of this parent before; then it goes to the end. -/
theorem append (h : a.Represents kids) {p c : NodeId} (hp : p.index < a.size)
    (hc : c.index < a.size) :
    (a.append p c).Represents
      (Function.update (fun q => splice c [] (kids q)) p (splice c [] (kids p) ++ [c])) := by
  -- whatever `c` was to `p` before, its last child or none at all, it stands nowhere now
  have h' := h.detach c
  have hfree : (a.detach c).parent c = none := by
    rw [h.parent_detach, if_pos rfl]
  refine h'.insert (l := splice c [] (kids p)) (r := []) hfree (by simp) fun y => ?_
  have hlast : (a.detach c).lastChild p = (splice c [] (kids p)).getLast? := h'.last p
  have hplast : (a.detach c).Has? (splice c [] (kids p)).getLast? := by
    intro z hz
    exact h'.child_lt (p := p) (List.mem_of_getLast? hz)
  have hc' : c.index < (a.detach c).size := by simpa using hc
  have hp' : (a.detach c).Has? (some p) := by simpa [Has?] using hp
  rw [append_eq, hlast]
  simp only [links_setBefore (has?_setAfter.2 (has?_relink.2 hp')) (has?_none _),
    links_setAfter (has?_relink.2 hp') (has?_relink.2 hplast), links_relink _ hc']
  rcases eq_or_ne y c with rfl | hy
  · have hlast : (splice y [] (kids p)).getLast? ≠ some y := by
      intro hlast
      exact (mem_splice_nil.1 (List.mem_of_getLast? hlast)).2 rfl
    simp only [eq_comm (a := y) (b := p), if_pos, if_neg hlast, and_true, List.head?_nil,
      reduceCtorEq, if_false, Option.some.injEq]
    rfl
  · simp only [if_neg hy, eq_comm (a := y) (b := p), and_true, List.head?_nil, reduceCtorEq,
      if_false, Option.some.injEq]
    rfl

/-- **Insert before**: the node goes from its place, and the two stand in the place of the one that
it was put before. Where that one stands nowhere, the node is taken out and not put in again. -/
theorem insertBefore (h : a.Represents kids) {r n : NodeId} (hne : r ≠ n)
    (hn : n.index < a.size) :
    (a.insertBefore r n).Represents fun p => splice r [n, r] (splice n [] (kids p)) := by
  have h' := h.detach n
  have hfree : (a.detach n).parent n = none := by
    rw [h.parent_detach, if_pos rfl]
  rcases hr : (a.detach n).parent r with _ | p
  -- there is no place before a node that stands nowhere
  · rw [h'.splice_eq_of_orphan hr, Arena.insertBefore, if_neg hne]
    simp only [hr]
    exact h'
  · obtain ⟨l, s, hkids⟩ := List.append_of_mem (h'.mem_iff.2 hr)
    rw [h'.splice_eq_update hkids]
    refine h'.insert (l := l) (r := r :: s) hfree hkids fun y => ?_
    have hprevious := (h'.siblings hkids).1
    have hlast : (a.detach n).Has? l.getLast? := hprevious ▸ h'.has?_previousSibling r
    have hn' : n.index < (a.detach n).size := by simpa using hn
    have hp : (a.detach n).Has? (some p) := hr ▸ h'.has?_parent r
    have hr' : (a.detach n).Has? (some r) := by
      rintro _ ⟨⟩
      exact index_lt_of_parent hr
    rw [insertBefore_eq a hne hr, hprevious]
    simp only [links_setAfter (has?_setBefore.2 (has?_relink.2 hp))
      (has?_setBefore.2 (has?_relink.2 hlast)),
      links_setBefore (has?_relink.2 hp) (has?_relink.2 hr'), links_relink _ hn']
    rcases eq_or_ne y n with rfl | hy
    · have hlast : l.getLast? ≠ some y := by
        intro hlast
        have : y ∈ splice y [] (kids p) := by
          rw [hkids]
          exact List.mem_append_left _ (List.mem_of_getLast? hlast)
        exact (mem_splice_nil.1 this).2 rfl
      simp only [eq_comm (a := y) (b := p), if_pos, if_neg hlast, if_neg hne, List.head?_cons,
        Option.some.injEq, reduceCtorEq, and_false, if_false]
      rfl
    · simp only [if_neg hy, eq_comm (a := y) (b := p), List.head?_cons, Option.some.injEq,
        reduceCtorEq, and_false, if_false]
      rfl

/-- **Replace**: the new node goes from its place, and stands in the place of the old one. -/
theorem replace (h : a.Represents kids) {o n : NodeId} (hne : o ≠ n) (ho : a.parent o ≠ none)
    (hn : n.index < a.size) :
    (a.replace o n).Represents fun p => splice o [n] (splice n [] (kids p)) := by
  have := (h.insertBefore hne hn).detach o
  simp only [splice_splice, splice_cons_of_ne (Ne.symm hne), splice_cons_self, splice_nil,
    List.nil_append] at this
  rw [Arena.replace, if_neg]
  · exact this
  · simp [hne, ho]

/-- Moving the children of `x` to the place before it, one after the other. -/
theorem foldl_insertBefore (h : a.Represents kids) {x : NodeId} (hx : x ∉ kids x) :
    ∀ (rest done : List NodeId) (b : Arena α), kids x = done ++ rest → b.size = a.size →
      b.Represents (Function.update (fun p => splice x (done ++ [x]) (kids p)) x rest) →
      (rest.foldl (·.insertBefore x ·) b).Represents
        (Function.update (fun p => splice x (kids x ++ [x]) (kids p)) x []) := by
  intro rest
  induction rest with
  | nil =>
    intro done b hkids _ hb
    rw [List.append_nil] at hkids
    rw [hkids]
    exact hb
  | cons c rest ih =>
    -- `done` stand before `x` already, and `c` and `rest` are left below it
    intro done b hkids hsize hb
    have hnodup := hkids ▸ h.nodup x
    have hc : c ∈ kids x := by rw [hkids]; simp
    have hcx : x ≠ c := fun he => hx (he ▸ hc)
    obtain ⟨hcdone, -⟩ := List.nodup_cons.1 (List.nodup_middle.1 hnodup)
    rw [hkids, List.mem_append, List.mem_cons, not_or, not_or] at hx
    rw [List.mem_append, not_or] at hcdone
    refine ih (done ++ [c]) _ (by rw [hkids]; simp) (by simp [hsize]) ?_
    convert hb.insertBefore hcx (by rw [hsize]; exact h.child_lt hc) using 1
    funext q
    rcases eq_or_ne q x with rfl | hq
    · rw [Function.update_self, Function.update_self, splice_cons_self, List.nil_append,
        splice_eq_self hcdone.2, splice_eq_self hx.2.2]
    · rw [Function.update_of_ne hq, Function.update_of_ne hq]
      have hcq : c ∉ splice x (done ++ [x]) (kids q) := by
        rw [mem_splice]
        rintro (⟨hcq, -⟩ | ⟨-, hcd⟩)
        · exact hq (h.parent_unique hcq hc)
        · rcases List.mem_append.1 hcd with hcd | hcd
          · exact hcdone.1 hcd
          · exact hcx (List.mem_singleton.1 hcd).symm
      rw [splice_eq_self hcq, splice_splice, splice_append, splice_eq_self hx.1, splice_cons_self,
        splice_nil, List.append_nil, List.append_assoc, List.singleton_append]

/-- **Unwrap**: the children of the node stand in its place, and it has none. The loop puts them
before the node one after the other, so their order is kept. -/
theorem unwrap (h : a.Represents kids) {x : NodeId} (hx : x ∉ kids x) (hp : a.parent x ≠ none) :
    (a.unwrap x).Represents
      (Function.update (fun p => splice x (kids x) (kids p)) x []) := by
  have start : a.Represents (Function.update (fun p => splice x [x] (kids p)) x (kids x)) := by
    convert h using 1
    funext q
    rcases eq_or_ne q x with rfl | hq
    · rw [Function.update_self]
    · rw [Function.update_of_ne hq, splice_self]
  -- all children come to stand before `x`, and then `x` goes from its place
  have moved := (h.foldl_insertBefore hx (kids x) [] a rfl rfl start).detach x
  rw [Arena.unwrap, if_neg (by simpa using hp), h.children_eq]
  convert moved using 1
  funext q
  rcases eq_or_ne q x with rfl | hq
  · simp
  · simp only [Function.update_of_ne hq]
    rw [splice_splice, splice_append, splice_eq_self hx, splice_cons_self, splice_nil,
      List.append_nil, List.append_nil]

end Represents

/-! ## The edits of a forest

Lists that agree with their links are not yet a forest: a node could have come to stand below
itself. What is placed gets a new parent and no other node does, so a cycle would lead through
it, and then the new parent would have stood below it before. -/

namespace IsForest

/-- To put a node below another one closes no circle, unless that one is itself below it. -/
theorem acyclic_of_placed (h : a.IsForest) {p n : NodeId}
    (sub : ∀ {q x}, b.parent x = some q → a.parent x = some q ∨ (x = n ∧ q = p))
    (hpn : p ≠ n) (hbelow : ¬ a.Below n p) (x : NodeId) : ¬ b.Below x x := by
  -- a way down in `b` is one in `a`, or leads through the new link
  have key : ∀ {u v}, b.Below u v →
      a.Below u v ∨ ((u = p ∨ a.Below u p) ∧ (v = n ∨ a.Below n v)) := by
    intro u v huv
    induction huv with
    | single huv =>
      rcases sub huv with huv | ⟨rfl, rfl⟩
      · exact Or.inl (below_of_parent huv)
      · exact Or.inr ⟨Or.inl rfl, Or.inl rfl⟩
    | tail _ hvw ih =>
      rcases sub hvw with hvw | ⟨rfl, rfl⟩
      · rcases ih with huv | ⟨hup, hnv⟩
        · exact Or.inl (huv.trans (below_of_parent hvw))
        · refine Or.inr ⟨hup, Or.inr ?_⟩
          rcases hnv with rfl | hnv
          · exact below_of_parent hvw
          · exact hnv.trans (below_of_parent hvw)
      · rcases ih with huv | ⟨-, hnv⟩
        · exact Or.inr ⟨Or.inr huv, Or.inl rfl⟩
        · rcases hnv with hnv | hnv
          · exact absurd hnv hpn
          · exact absurd hnv hbelow
  intro hx
  rcases key hx with hx | ⟨hxp, hnx⟩
  · exact h.acyclic x hx
  · rcases hxp with rfl | hxp <;> rcases hnx with rfl | hnx
    · exact hpn rfl
    · exact hbelow hnx
    · exact hbelow hxp
    · exact hbelow (hnx.trans hxp)

/-- A parent seen after a detachment was there before it, so no cycle can come from detaching. -/
theorem parent_of_detach (h : a.IsForest) {x y p : NodeId}
    (hp : (a.detach x).parent y = some p) : a.parent y = some p := by
  rw [h.parent_detach] at hp
  split at hp
  · cases hp
  · exact hp

theorem detach (h : a.IsForest) (x : NodeId) : (a.detach x).IsForest :=
  (h.toRepresents.detach x).isForest fun y hy => h.acyclic y (hy.mono h.parent_of_detach)

/-- The new parent stands neither at nor below the node, and so the node gets no path back to
itself. -/
theorem append (h : a.IsForest) {p c : NodeId} (hp : p.index < a.size) (hc : c.index < a.size)
    (hne : p ≠ c) (hbelow : ¬ a.Below c p) : (a.append p c).IsForest := by
  have h' := h.toRepresents.append hp hc
  refine h'.isForest (h.acyclic_of_placed ?_ hne hbelow)
  intro q x hx
  rw [← h'.mem_iff] at hx
  rcases eq_or_ne q p with rfl | hq
  · rw [Function.update_self, List.mem_append, mem_splice_nil, List.mem_singleton] at hx
    rcases hx with ⟨hx, -⟩ | rfl
    · exact Or.inl (h.mem_iff.1 hx)
    · exact Or.inr ⟨rfl, rfl⟩
  · rw [Function.update_of_ne hq, mem_splice_nil] at hx
    exact Or.inl (h.mem_iff.1 hx.1)

/-- The way up from the new parent can be looked through. -/
theorem append_of_avoids (h : a.IsForest) {p c : NodeId} (hp : p.index < a.size)
    (hc : c.index < a.size) (hne : p ≠ c) (free : a.avoids c a.size p = true) :
    (a.append p c).IsForest :=
  h.append hp hc hne (not_below_of_avoids free)

/-- Here the reference may be the node itself, or stand nowhere; then the edit stops early and
nothing is put in. -/
theorem insertBefore (h : a.IsForest) {r n : NodeId} (hn : n.index < a.size)
    (hbelow : ¬ a.Below n r) : (a.insertBefore r n).IsForest := by
  rcases eq_or_ne r n with rfl | hne
  · rw [Arena.insertBefore, if_pos rfl]
    exact h
  have h' := h.toRepresents.insertBefore hne hn
  -- only `n` has got a parent, and it is the one that `r` has
  have moved : ∀ {q x}, (a.insertBefore r n).parent x = some q →
      a.parent x = some q ∨ (x = n ∧ a.parent r = some q) := by
    intro q x hx
    rw [← h'.mem_iff, mem_splice, mem_splice_nil, mem_splice_nil] at hx
    rcases hx with ⟨⟨hx, -⟩, -⟩ | ⟨⟨hr, -⟩, hx⟩
    · exact Or.inl (h.mem_iff.1 hx)
    · rw [h.mem_iff] at hr
      rcases List.mem_cons.1 hx with rfl | hx
      · exact Or.inr ⟨rfl, hr⟩
      · rw [List.mem_singleton.1 hx]
        exact Or.inl hr
  -- without a parent for `r` the edit can only have taken `n` out
  rcases hr : a.parent r with _ | p
  · refine h'.isForest fun x hx => h.acyclic x (hx.mono fun hqx => ?_)
    rcases moved hqx with hqx | ⟨-, hrq⟩
    · exact hqx
    · rw [hr] at hrq
      cases hrq
  · refine h'.isForest (h.acyclic_of_placed (p := p) (n := n) ?_ ?_ ?_)
    · intro q x hx
      rcases moved hx with hx | ⟨rfl, hrq⟩
      · exact Or.inl hx
      · rw [hr] at hrq
        exact Or.inr ⟨rfl, (Option.some.inj hrq).symm⟩
    · rintro rfl
      exact hbelow (below_of_parent hr)
    · intro hnp
      exact hbelow (hnp.trans (below_of_parent hr))

/-- A replacement is an insertion before the old node and a detachment of it. -/
theorem replace (h : a.IsForest) {o n : NodeId} (hn : n.index < a.size)
    (hbelow : ¬ a.Below n o) : (a.replace o n).IsForest := by
  rw [Arena.replace]
  split
  · exact h
  · exact (h.insertBefore hn hbelow).detach o

/-- A child may be moved to the place before its parent, and then the next one. -/
theorem foldl_insertBefore {x : NodeId} :
    ∀ (rest : List NodeId) (b : Arena α), b.IsForest → b.children x = rest →
      (rest.foldl (·.insertBefore x ·) b).IsForest := by
  intro rest
  induction rest with
  | nil => intro b hb _; exact hb
  | cons c rest ih =>
    intro b hb hrest
    have hc : c ∈ b.children x := by rw [hrest]; exact List.mem_cons_self
    have hcx : x ≠ c := (hb.ne_of_mem hc).symm
    have hclt := hb.child_lt hc
    have hx : x ∉ rest := by
      intro hx
      exact hb.ne_of_mem (hrest ▸ List.mem_cons_of_mem c hx) rfl
    have hcrest : c ∉ rest := (List.nodup_cons.1 (hrest ▸ hb.nodup x)).1
    -- the parent of `x` is not below `c`, since `c` is below `x`
    refine ih _ (hb.insertBefore hclt fun hcx => ?_) ?_
    · exact hb.acyclic c (hcx.trans (hb.below_of_mem hc))
    · rw [(hb.toRepresents.insertBefore hcx hclt).children_eq, hrest, splice_cons_self,
        List.nil_append, splice_eq_self hcrest, splice_eq_self hx]

/-- Its children go up by one insertion each, and none of these is asked to go below itself. -/
theorem unwrap (h : a.IsForest) (x : NodeId) : (a.unwrap x).IsForest := by
  rw [Arena.unwrap]
  split
  · exact h
  · exact (foldl_insertBefore (a.children x) a h rfl).detach x

theorem push (h : a.IsForest) (payload : α) : (a.push payload).1.IsForest :=
  h.of_links_eq (links_push a payload)

theorem modifyPayload (h : a.IsForest) (id : NodeId) (f : α → α) :
    (a.modifyPayload id f).IsForest :=
  h.of_links_eq (links_modifyPayload a id f)

/-! ### The lists afterwards

The same in terms of `children`, which is what the passes and the conversion read. -/

/-- In the lists of children a detachment is a gap that has closed. -/
theorem children_detach (h : a.IsForest) (x p : NodeId) :
    (a.detach x).children p = splice x [] (a.children p) :=
  (h.toRepresents.detach x).children_eq p

/-- The node leaves its old list and is the last of the new one, also where the two are one
list. -/
theorem children_append (h : a.IsForest) {p c : NodeId} (hp : p.index < a.size)
    (hc : c.index < a.size) (q : NodeId) :
    (a.append p c).children q =
      if q = p then splice c [] (a.children p) ++ [c] else splice c [] (a.children q) := by
  rw [(h.toRepresents.append hp hc).children_eq, Function.update_apply]

/-- The node leaves its old list first; the reference is then found where it stands and gets it as
its neighbour. -/
theorem children_insertBefore (h : a.IsForest) {r n : NodeId} (hne : r ≠ n)
    (hn : n.index < a.size) (p : NodeId) :
    (a.insertBefore r n).children p = splice r [n, r] (splice n [] (a.children p)) :=
  (h.toRepresents.insertBefore hne hn).children_eq p

/-- The new node comes out of its own list and takes the place of the old one. -/
theorem children_replace (h : a.IsForest) {o n : NodeId} (hne : o ≠ n) (ho : a.parent o ≠ none)
    (hn : n.index < a.size) (p : NodeId) :
    (a.replace o n).children p = splice o [n] (splice n [] (a.children p)) :=
  (h.toRepresents.replace hne ho hn).children_eq p

/-- The children take the place of their parent, in their order, and it keeps none of them. -/
theorem children_unwrap (h : a.IsForest) {x : NodeId} (hx : a.parent x ≠ none) (p : NodeId) :
    (a.unwrap x).children p = if p = x then [] else splice x (a.children x) (a.children p) := by
  have hself : x ∉ a.children x := fun hx => h.ne_of_mem hx rfl
  rw [(h.toRepresents.unwrap hself hx).children_eq, Function.update_apply]

theorem children_modifyPayload (h : a.IsForest) (id : NodeId) (f : α → α) (p : NodeId) :
    (a.modifyPayload id f).children p = a.children p :=
  (h.toRepresents.of_links_eq (links_modifyPayload a id f)).children_eq p

@[simp] theorem children_push (h : a.IsForest) (payload : α) (p : NodeId) :
    (a.push payload).1.children p = a.children p :=
  (h.toRepresents.of_links_eq (links_push a payload)).children_eq p

end IsForest

end Tagdown.Arena
