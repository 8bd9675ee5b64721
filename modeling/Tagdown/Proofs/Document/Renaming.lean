import Mathlib.Data.Set.Function
import Tagdown.Document.NodeRef
import Tagdown.Proofs.Document.Contents
import Tagdown.Proofs.LevelOrder

/-!
# The same document, made of other nodes

The nodes of a document have numbers in the order in which they were made, and an arena keeps nodes
that nothing leads to. Two documents that show the same can differ in all of this.
`Renaming f S t u` says that the nodes in `S` of `t` are found in `u` under the names that `f` gives
them, with the same kinds and texts and in the same order, and says nothing of any other node. What
can be seen from the nodes in `S` is then the same in both: the contents, the neighbours, the order
of the levels.

Documents with the same contents are such documents: a node of the one is matched with the node
that is found in the same place of the other (`exists_renaming`).
-/

namespace Tagdown.Tree

variable {t u : Tree} {f : NodeId → NodeId} {S : Set NodeId} {x y p q s : NodeId}

/-- The nodes in `S` of `t` are in `u` what they are in `t`, under the names that `f` gives them. -/
structure Renaming (f : NodeId → NodeId) (S : Set NodeId) (t u : Tree) : Prop where
  left : t.IsForest
  right : u.IsForest
  injOn : Set.InjOn f S
  index_lt : ∀ {x}, x ∈ S → x.index < t.size ∧ (f x).index < u.size
  label_eq : ∀ {x}, x ∈ S → u.label (f x) = t.label x
  value_eq : ∀ {x}, x ∈ S → (t.label x).isLeaf = true → u.value (f x) = t.value x
  /-- with a node its children are in `S`, as far as they show -/
  child_mem : ∀ {p x}, p ∈ S → (t.label p).isLeaf = false → x ∈ t.children p → x ∈ S
  children_eq : ∀ {p}, p ∈ S → (t.label p).isLeaf = false →
    u.children (f p) = (t.children p).map f

/-- An element shows what is below it. -/
theorem isLeaf_of_isElement (h : t.isElement x = true) : (t.label x).isLeaf = false :=
  Label.isLeaf_of_isElement h

namespace Renaming

variable (r : Renaming f S t u)
include r

/-! ## What is the same

All that a rule or a pass can ask of a node, as far as it is asked of nodes in `S`. -/

/-- **The contents are the same.** By induction from below, since the children of a node in `S` are
in `S` as well. -/
theorem contents_eq (x : NodeId) : x ∈ S → u.contents (f x) = t.contents x := by
  induction x using r.left.induction_below with
  | step x ih =>
    intro hx
    cases hleaf : (t.label x).isLeaf
    · have hmap : (t.children x).map (u.contents ∘ f) = (t.children x).map t.contents :=
        List.map_congr_left fun c hc => ih c hc (r.child_mem hx hleaf hc)
      have hleaf' : (u.label (f x)).isLeaf = false := by rw [r.label_eq hx, hleaf]
      rw [contents_of_inner r.left hleaf, contents_of_inner r.right hleaf', r.label_eq hx,
        r.children_eq hx hleaf, List.map_map, hmap]
    · have hleaf' : (u.label (f x)).isLeaf = true := by rw [r.label_eq hx, hleaf]
      have hnode : u.node (f x) = t.node x := by
        show (⟨u.label (f x), u.value (f x)⟩ : Node) = ⟨t.label x, t.value x⟩
        rw [r.label_eq hx, r.value_eq hx hleaf]
      rw [contents_of_leaf r.left hleaf, contents_of_leaf r.right hleaf', hnode]

section Inner

variable (hx : x ∈ S) (hinner : (t.label x).isLeaf = false)
include hx hinner

/-- So is what is inside a node, as it is printed. -/
theorem innerHtml_eq : u.innerHtml (f x) = t.innerHtml x := by
  have hlabel := r.label_eq hx
  rw [innerHtml_eq_contents hinner, innerHtml_eq_contents (by rw [hlabel, hinner]),
    r.contents_eq x hx, tagName, tagName, hlabel]

/-- and so is its text. -/
theorem textContent_eq : u.textContent (f x) = t.textContent x := by
  have hlabel := r.label_eq hx
  rw [textContent_eq_contents hinner, textContent_eq_contents (by rw [hlabel, hinner]),
    r.contents_eq x hx]

end Inner

/-- Elements are named elements. -/
theorem isElement_eq (hx : x ∈ S) : u.isElement (f x) = t.isElement x := by
  rw [isElement, isElement, r.label_eq hx]

section Child

variable (hp : p ∈ S) (hinner : (t.label p).isLeaf = false) (hx : x ∈ t.children p)
include hp hinner hx

/-- A child is named as a child of the node that its parent is named. -/
theorem mem_children : f x ∈ u.children (f p) := by
  rw [r.children_eq hp hinner]
  exact List.mem_map_of_mem hx

/-- So are the neighbours of a child. -/
theorem siblings_eq :
    u.previousSibling (f x) = (t.previousSibling x).map f ∧
      u.nextSibling (f x) = (t.nextSibling x).map f ∧
      u.precedingSiblings (f x) = (t.precedingSiblings x).map f := by
  obtain ⟨before, after, hsplit⟩ := List.append_of_mem hx
  have hsplit' : u.children (f p) = before.map f ++ f x :: after.map f := by
    rw [r.children_eq hp hinner, hsplit, List.map_append, List.map_cons]
  obtain ⟨hprevious, hnext⟩ := r.left.siblings hsplit
  obtain ⟨hprevious', hnext'⟩ := r.right.siblings hsplit'
  refine ⟨?_, ?_, ?_⟩
  · rw [hprevious, hprevious', List.getLast?_map]
  · rw [hnext, hnext', List.head?_map]
  · rw [r.left.precedingSiblings_eq hsplit, r.right.precedingSiblings_eq hsplit',
      List.map_reverse]

/-- The number among the siblings goes by those before, and these are the same. -/
theorem elementIndex_eq : NodeRef.elementIndex ⟨u, f x⟩ = NodeRef.elementIndex ⟨t, x⟩ := by
  obtain ⟨-, -, hpreceding⟩ := r.siblings_eq hp hinner hx
  show (u.precedingSiblings (f x)).countP u.isElement + 1 =
    (t.precedingSiblings x).countP t.isElement + 1
  rw [hpreceding, List.countP_map]
  congr 1
  refine List.countP_congr fun y hy => ?_
  -- the siblings are children of `p` too, so they are in `S`
  obtain ⟨before, after, hsplit⟩ := List.append_of_mem hx
  rw [r.left.precedingSiblings_eq hsplit, List.mem_reverse] at hy
  have hyS := r.child_mem hp hinner (hsplit ▸ List.mem_append_left _ hy)
  rw [Function.comp_apply, r.isElement_eq hyS]

end Child

/-! ## Level by level

The level order is made by going from nodes to their element children, all of which are in `S`. -/

/-- The element children keep their order. -/
theorem elementChildren_eq (hp : p ∈ S) (hinner : (t.label p).isLeaf = false) :
    u.elementChildren (f p) = (t.elementChildren p).map f := by
  rw [elementChildren, elementChildren, r.children_eq hp hinner, List.filter_map]
  congr 1
  exact List.filter_congr fun x hx => r.isElement_eq (r.child_mem hp hinner hx)

section From

variable (hs : s ∈ S) (hinner : (t.label s).isLeaf = false)
include hs hinner

/-- All elements of a level have names, by induction on the levels. -/
theorem tier_mem (d : Nat) : ∀ x ∈ t.tier s d, x ∈ S := by
  induction d with
  | zero => exact fun x hx => r.child_mem hs hinner (List.mem_of_mem_filter hx)
  | succ d ih =>
    intro x hx
    obtain ⟨p, hp, hx⟩ := List.mem_flatMap.1 hx
    exact r.child_mem (ih p hp) (isLeaf_of_isElement (isElement_of_mem_tier r.left hp))
      (List.mem_of_mem_filter hx)

/-- Level by level the names are in the same order. -/
theorem tier_eq (d : Nat) : u.tier (f s) d = (t.tier s d).map f := by
  induction d with
  | zero => exact r.elementChildren_eq hs hinner
  | succ d ih =>
    rw [tier, ih, List.flatMap_map, tier, List.map_flatMap]
    refine List.flatMap_congr fun p hp => ?_
    exact r.elementChildren_eq (r.tier_mem hs hinner d p hp)
      (isLeaf_of_isElement (isElement_of_mem_tier r.left hp))

/-- **The levels are the same**, however many nodes the two arenas have. The number of rounds
depends on the size of the arena, but those beyond the last tier add nothing. -/
theorem levelOrder_eq : u.levelOrder (f s) = (t.levelOrder s).map f := by
  obtain ⟨ht, hu⟩ := r.index_lt hs
  rw [levelOrder_eq_of_le r.left ht (Nat.le_max_left t.size u.size),
    levelOrder_eq_of_le r.right hu (Nat.le_max_right t.size u.size), List.map_flatMap]
  exact List.flatMap_congr fun d _ => r.tier_eq hs hinner d

/-- An element of the levels stands below a node in `S`. -/
theorem exists_parent_of_mem_levelOrder (hx : x ∈ t.levelOrder s) :
    ∃ p ∈ S, (t.label p).isLeaf = false ∧ x ∈ t.children p := by
  obtain ⟨d, -, hx⟩ := mem_levelOrder_iff_tier.1 hx
  cases d with
  | zero => exact ⟨s, hs, hinner, List.mem_of_mem_filter hx⟩
  | succ d =>
    obtain ⟨p, hp, hx⟩ := List.mem_flatMap.1 hx
    exact ⟨p, r.tier_mem hs hinner d p hp,
      isLeaf_of_isElement (isElement_of_mem_tier r.left hp), List.mem_of_mem_filter hx⟩

end From

end Renaming

/-! ## Documents with the same contents

The matching goes down from the two roots at once. That it is a function, and one to one, comes
from the forests: no node has two places. -/

/-- The nodes are found in the same place below the two roots, going down through nodes that show
what is below them. -/
inductive Matched (t u : Tree) : NodeId → NodeId → Prop where
  | roots : Matched t u root root
  | children {p q x y : NodeId} {i : Nat} (above : Matched t u p q)
    (inner : (t.label p).isLeaf = false) (left : (t.children p)[i]? = some x)
    (right : (u.children q)[i]? = some y) : Matched t u x y

/-- Where the contents are the same, the kinds are, and the contents of the children. -/
theorem label_and_row_eq (ht : t.IsForest) (hu : u.IsForest) (same : u.contents q = t.contents p) :
    u.label q = t.label p ∧ ((t.label p).isLeaf = false →
      (u.children q).map u.contents = (t.children p).map t.contents) := by
  have hlabel : u.label q = t.label p := by rw [← kind_contents, same, kind_contents]
  refine ⟨hlabel, fun hinner => ?_⟩
  rw [contents_of_inner ht hinner, contents_of_inner hu (hlabel ▸ hinner)] at same
  exact (Rose.node.inj same).2

namespace Matched

/-- A child is not the root. -/
theorem ne_root (ht : t.IsForest) (m : Matched t u p q) {i : Nat}
    (hx : (t.children p)[i]? = some x) : x ≠ root := by
  have within : t.Within root p := by
    clear hx
    induction m with
    | roots => exact t.within_self root
    | children above inner left right ih =>
      exact ih.trans (ht.within_of_mem (List.mem_of_getElem? left))
  rintro rfl
  have hmem := List.mem_of_getElem? hx
  rcases within with rfl | hbelow
  · exact ht.ne_of_mem hmem rfl
  · exact ht.acyclic root (hbelow.trans (ht.below_of_mem hmem))

/-- By induction on the way down: the children at one place have the same contents if their
parents have. -/
theorem contents_eq (ht : t.IsForest) (hu : u.IsForest)
    (same : u.contents root = t.contents root) (m : Matched t u x y) :
    u.contents y = t.contents x := by
  induction m with
  | roots => exact same
  | @children p q x y i above inner left right ih =>
    have hrow := congrArg (fun row : List (Rose Node) => row[i]?)
      ((label_and_row_eq ht hu ih).2 inner)
    simpa [List.getElem?_map, left, right] using hrow

/-- A node is matched with one node only. -/
theorem unique (ht : t.IsForest) (m : Matched t u x y) : ∀ {y'}, Matched t u x y' → y' = y := by
  induction m with
  | roots =>
    intro y' m'
    cases m' with
    | roots => rfl
    | children above inner left right => exact absurd rfl (above.ne_root ht left)
  | @children p q x y i above inner left right ih =>
    intro y' m'
    cases m' with
    | roots => exact absurd rfl (above.ne_root ht left)
    | @children p' q' _ _ j above' inner' left' right' =>
      obtain rfl := ht.parent_unique (List.mem_of_getElem? left) (List.mem_of_getElem? left')
      obtain rfl := ih above'
      obtain ⟨hi, -⟩ := List.getElem?_eq_some_iff.1 left
      obtain rfl := (List.getElem?_inj hi (ht.nodup p)).1 (left.trans left'.symm)
      exact Option.some.inj (right'.symm.trans right)

/-- The two documents can change places. -/
theorem symm (ht : t.IsForest) (hu : u.IsForest) (same : u.contents root = t.contents root)
    (m : Matched t u x y) : Matched u t y x := by
  induction m with
  | roots => exact .roots
  | children above inner left right ih =>
    have hlabel := (label_and_row_eq ht hu (above.contents_eq ht hu same)).1
    exact .children ih (hlabel ▸ inner) right left

/-- What is found on a way down from the root is in the arena. -/
theorem index_lt (ht : t.IsForest) (hroot : root.index < t.size) (m : Matched t u x y) :
    x.index < t.size := by
  cases m with
  | roots => exact hroot
  | children above inner left right => exact ht.child_lt (List.mem_of_getElem? left)

end Matched

/-- **Documents with the same contents** differ in the names of their nodes alone. A node goes by
the way down to it, and the same way leads to its match. -/
theorem exists_renaming (ht : t.IsForest) (hu : u.IsForest) (htroot : root.index < t.size)
    (huroot : root.index < u.size) (same : u.contents root = t.contents root) :
    ∃ f S, Renaming f S t u ∧ root ∈ S ∧ f root = root := by
  -- nodes that are found by the same way down are matched, and the renaming follows the matches
  choose! f hf using fun x (hx : ∃ y, Matched t u x y) => hx
  refine ⟨f, {x | ∃ y, Matched t u x y}, ?_, ⟨root, .roots⟩,
    Matched.unique ht .roots (hf root ⟨root, .roots⟩)⟩
  -- the match is one in both directions, so that no two nodes get the same name
  have hback : ∀ {x}, (∃ y, Matched t u x y) → Matched u t (f x) x :=
    fun hx => (hf _ hx).symm ht hu same
  constructor
  · exact ht
  · exact hu
  · intro x hx y hy hxy
    exact (hback hy).unique hu (hxy ▸ hback hx)
  · exact fun hx => ⟨(hf _ hx).index_lt ht htroot, (hback hx).index_lt hu huroot⟩
  · exact fun hx => (label_and_row_eq ht hu ((hf _ hx).contents_eq ht hu same)).1
  · intro x hx hleaf
    have hcontents := (hf x hx).contents_eq ht hu same
    have hleaf' : (u.label (f x)).isLeaf = true := by
      rw [(label_and_row_eq ht hu hcontents).1, hleaf]
    rw [← value_contents hleaf, ← value_contents hleaf', hcontents]
  -- a child is matched with the child at the same place, and the rows are of one length
  · rintro p x ⟨q, above⟩ hinner hx
    obtain ⟨i, hi⟩ := List.getElem?_of_mem hx
    have hrow := (label_and_row_eq ht hu (above.contents_eq ht hu same)).2 hinner
    have hlength : (u.children q).length = (t.children p).length := by
      simpa using congrArg List.length hrow
    obtain ⟨hlt, -⟩ := List.getElem?_eq_some_iff.1 hi
    exact ⟨_, .children above hinner hi (List.getElem?_eq_getElem (hlength ▸ hlt))⟩
  · intro p hp hinner
    have above := hf p hp
    have hrow := (label_and_row_eq ht hu (above.contents_eq ht hu same)).2 hinner
    have hlength : (u.children (f p)).length = (t.children p).length := by
      simpa using congrArg List.length hrow
    refine List.ext_getElem (by rw [List.length_map, hlength]) fun i hi hi' => ?_
    rw [List.length_map] at hi'
    have matched : Matched t u (t.children p)[i] (u.children (f p))[i] :=
      .children above hinner (List.getElem?_eq_getElem hi') (List.getElem?_eq_getElem hi)
    rw [List.getElem_map]
    exact (hf _ ⟨_, matched⟩).unique ht matched

end Tagdown.Tree
