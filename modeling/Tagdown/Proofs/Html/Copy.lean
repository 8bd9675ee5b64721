import Tagdown.Html.Dom
import Tagdown.Proofs.Document.History
import Tagdown.Proofs.Document.Markup

/-!
# What was read is what the document holds

A document is made of a tree that was read by one edit after the other: an element is made, all
that is below it comes under it while it still stands nowhere, and only then it is placed.
`Grown` says what such a piece of work does to a document. It puts a row of trees after the
children of one node, the new nodes are those at the end of the arena in the order in which a
reader meets them, and what was there before stays as it was.

So the document holds the tree, without the nodes of a sort that a document does not have, and the
place of each node in the arena is its place in the text (`ofDom_holds_keptAll`).
-/

namespace Tagdown

namespace Rose

variable {α : Type}

/-- All labels, that of a node before those below it. -/
def labels (r : Rose α) : List α :=
  (r.preorder 0).map Prod.snd

mutual

/-- The depth that the labels are listed with changes nothing about their order. -/
theorem map_snd_preorder (d e : Nat) :
    ∀ r : Rose α, (r.preorder d).map Prod.snd = (r.preorder e).map Prod.snd
  | .node a rs => by
    rw [preorder, preorder, List.map_cons, List.map_cons,
      map_snd_preorderAll (d + 1) (e + 1) rs]

/-- For rows, by turns with the trees. -/
theorem map_snd_preorderAll (d e : Nat) :
    ∀ rs : List (Rose α), (preorderAll d rs).map Prod.snd = (preorderAll e rs).map Prod.snd
  | [] => by rw [preorderAll, preorderAll]
  | r :: rs => by
    rw [preorderAll, preorderAll, List.map_append, List.map_append, map_snd_preorder d e r,
      map_snd_preorderAll d e rs]

end

/-- In preorder, a node comes first and then all below it, child by child. -/
theorem labels_node (a : α) (rs : List (Rose α)) :
    (node a rs).labels = a :: rs.flatMap labels := by
  have row : ∀ rs : List (Rose α), (preorderAll 1 rs).map Prod.snd = rs.flatMap labels := by
    intro rs
    induction rs with
    | nil => rw [preorderAll, List.map_nil, List.flatMap_nil]
    | cons r rs ih =>
      rw [preorderAll, List.map_append, ih, map_snd_preorder 1 0 r, List.flatMap_cons, labels]
  rw [labels, preorder, List.map_cons, row]

end Rose

namespace Html

mutual

/-- What a document has of a tree that was read. A node of a sort that no document has is left
out, with all that is below it; below a text or a comment there is nothing. -/
def kept : Dom → Option (Rose Node)
  | .node label children =>
    match label with
    | .element tag attributes =>
      some (.node { label := .element (Text.asciiLower tag) attributes } (keptAll children))
    | .text value => some (.node { label := .text, value } [])
    | .comment value => some (.node { label := .comment, value } [])
    | .other => none

/-- `kept` of each tree of a row. -/
def keptAll : List Dom → List (Rose Node)
  | [] => []
  | dom :: doms => (kept dom).toList ++ keptAll doms

end

end Html

namespace Tree

open Html

variable {t u v : Tree} {parent : NodeId} {row row' : List (Rose Node)}

/-! ## Nodes in the order in which they are made

A new node gets the next number, and is put below one that was made before it. So numbers grow on
every way down, and what has been made below a node is left alone by whatever is made later. -/

/-- The nodes that are made while an arena grows from `m` nodes to `n`. -/
def span (m n : Nat) : List NodeId :=
  (List.range' m (n - m)).map NodeId.mk

theorem span_self (n : Nat) : span n n = [] := by
  rw [span, Nat.sub_self]
  rfl

/-- The node that is made first is the first of them. -/
theorem span_cons {m n : Nat} (h : m < n) : span m n = ⟨m⟩ :: span (m + 1) n := by
  obtain ⟨k, rfl⟩ := Nat.exists_eq_add_of_lt h
  rw [span, span, show m + k + 1 - m = k + 1 by omega, show m + k + 1 - (m + 1) = k by omega]
  rfl

/-- What is made in two stretches is made in one. -/
theorem span_append {l m n : Nat} (hlm : l ≤ m) (hmn : m ≤ n) :
    span l m ++ span m n = span l n := by
  obtain ⟨j, rfl⟩ := Nat.exists_eq_add_of_le hlm
  obtain ⟨k, rfl⟩ := Nat.exists_eq_add_of_le hmn
  rw [span, span, span, ← List.map_append, Nat.add_sub_cancel_left, Nat.add_sub_cancel_left,
    Nat.add_assoc, Nat.add_sub_cancel_left, List.range'_append_1]

theorem mem_span {m n : Nat} {x : NodeId} : x ∈ span m n ↔ m ≤ x.index ∧ x.index < n := by
  rw [span, List.mem_map]
  constructor
  · rintro ⟨i, hi, rfl⟩
    rw [List.mem_range'_1] at hi
    exact ⟨hi.1, show i < n by omega⟩
  · rintro ⟨hm, hn⟩
    have hrange : x.index < m + (n - m) := by omega
    exact ⟨x.index, List.mem_range'_1.2 ⟨hm, hrange⟩, rfl⟩

/-- A well-formed document in which no node stands below one that was made after it. -/
structure Ordered (t : Tree) : Prop extends t.WellFormed where
  index_lt : ∀ {p x : NodeId}, x ∈ t.children p → p.index < x.index

/-- The empty document has nothing below its root. -/
theorem ordered_empty : empty.Ordered := by
  refine ⟨wellFormed_empty, fun {p x} hx => ?_⟩
  have hsize := wellFormed_empty.forest.child_lt hx
  obtain ⟨_ | i⟩ := x
  · rw [wellFormed_empty.forest.mem_iff] at hx
    cases hx
  · exact absurd hsize (by simp [empty, Arena.size])

/-- A new node stands nowhere yet, so the order is not touched. -/
theorem Ordered.push (h : t.Ordered) {n : Node} (hn : n.label ≠ .document) :
    Ordered (t.push n).1 := by
  refine ⟨h.toWellFormed.push hn, fun {p x} hx => ?_⟩
  rw [h.forest.children_push] at hx
  exact h.index_lt hx

/-- The way down leads to nodes that were made later. -/
theorem Ordered.index_lt_of_below (h : t.Ordered) {p x : NodeId} (hx : t.Below p x) :
    p.index < x.index := by
  induction hx with
  | single hx => exact h.index_lt (h.forest.mem_iff.2 hx)
  | tail _ hx ih => exact Nat.lt_trans ih (h.index_lt (h.forest.mem_iff.2 hx))

/-- A node that stands nowhere comes after the children of another one, and that is all. -/
theorem children_append_of_free (h : t.IsForest) {id : NodeId} (hid : id.index < t.size)
    (hparent : parent.index < t.size) (free : ∀ p, id ∉ t.children p) (p : NodeId) :
    (t.append parent id).children p =
      if p = parent then t.children parent ++ [id] else t.children p := by
  rw [h.children_append hparent hid, Arena.splice_eq_self (free _), Arena.splice_eq_self (free _)]

/-- An older parent makes no cycle, since all ways down lead to later nodes. -/
theorem Ordered.append (h : t.Ordered) {id : NodeId} (hid : id.index < t.size)
    (before : parent.index < id.index) (free : ∀ p, id ∉ t.children p) :
    Ordered (t.append parent id) := by
  have hparent : parent.index < t.size := Nat.lt_trans before hid
  have habove : ¬ t.Below id parent := by
    intro hbelow
    have := h.index_lt_of_below hbelow
    omega
  have hne : parent ≠ id := by
    rintro rfl
    exact Nat.lt_irrefl _ before
  refine ⟨h.toWellFormed.of_frame (h.forest.append hparent hid hne habove)
    (Arena.size_append t _ _) fun x => label_of_node_eq (node_append t _ _ x), fun {p x} hx => ?_⟩
  rw [children_append_of_free h.forest hid hparent free] at hx
  split at hx
  · subst p
    rcases List.mem_append.1 hx with hx | hx
    · exact h.index_lt hx
    · rw [List.mem_singleton.1 hx]
      exact before
  · exact h.index_lt hx

/-- What is below a late node is as it was, if nothing has changed but early nodes. -/
theorem Ordered.below_congr (h : t.Ordered) (hu : u.IsForest) {n : Nat}
    (same : ∀ x : NodeId, n ≤ x.index → x.index < t.size →
      u.node x = t.node x ∧ u.children x = t.children x) {x : NodeId} :
    n ≤ x.index → x.index < t.size → u.subtree x = t.subtree x ∧ u.markup x = t.markup x := by
  refine h.forest.induction_below (motive := fun x => n ≤ x.index → x.index < t.size →
    u.subtree x = t.subtree x ∧ u.markup x = t.markup x) ?_ x
  intro x ih hn hlt
  have below : ∀ c ∈ t.children x, u.subtree c = t.subtree c ∧ u.markup c = t.markup c :=
    fun c hc => ih c hc (Nat.le_trans hn (Nat.le_of_lt (h.index_lt hc))) (h.forest.child_lt hc)
  obtain ⟨hnode, hchildren⟩ := same x hn hlt
  constructor
  · rw [hu.subtree_eq, h.forest.subtree_eq, hchildren,
      List.map_congr_left fun c hc => (below c hc).1]
  · rw [markup_eq hu, markup_eq h.forest, hnode, hchildren,
      List.map_congr_left fun c hc => (below c hc).2]

/-! ## A document grows

`Grown t u parent row` is one step of the copy: the row stands after the children that `parent`
had, its nodes are those that were made, and all else is as it was. Such steps can be put
together, and that is all that the recursion needs. -/

/-- From `t` to `u`, a row of trees was added after the children of `parent`. Its nodes are all
that were made, one after the other as they stand in the row. -/
structure Grown (t u : Tree) (parent : NodeId) (row : List (Rose Node)) : Prop where
  ordered : u.Ordered
  size_le : t.size ≤ u.size
  node_eq : ∀ x : NodeId, x.index < t.size → u.node x = t.node x
  children_eq : ∀ x : NodeId, x.index < t.size → x ≠ parent → u.children x = t.children x
  added : ∃ ids, u.children parent = t.children parent ++ ids ∧ ids.map u.markup = row ∧
    ids.flatMap (fun x => (u.subtree x).labels) = span t.size u.size

/-- A node is among the labels of its own subtree. -/
theorem mem_labels_subtree (h : t.IsForest) (x : NodeId) : x ∈ (t.subtree x).labels := by
  rw [h.subtree_eq, Rose.labels_node]
  exact List.mem_cons_self

/-- Whatever is listed below a node stands there. -/
theorem within_of_mem_labels (h : t.IsForest) (p : NodeId) {x : NodeId} :
    x ∈ (t.subtree p).labels → t.Within p x := by
  refine h.induction_below (motive := fun p => x ∈ (t.subtree p).labels → t.Within p x) ?_ p
  intro p ih hx
  rw [h.subtree_eq, Rose.labels_node, List.flatMap_map, List.mem_cons, List.mem_flatMap] at hx
  obtain rfl | ⟨c, hc, hx⟩ := hx
  · exact t.within_self x
  · exact (h.within_of_mem hc).trans (ih c hc hx)

namespace Grown

/-- To add no tree makes no node. -/
theorem nil (h : t.Ordered) (parent : NodeId) : Grown t t parent [] where
  ordered := h
  size_le := Nat.le_refl _
  node_eq _ _ := rfl
  children_eq _ _ _ := rfl
  added := ⟨[], (List.append_nil _).symm, rfl, (span_self _).symm⟩

/-- One row after the other. The second one is added at nodes that were there before the first. -/
theorem trans (h : Grown t v parent row) (h' : Grown v u parent row')
    (hparent : parent.index < t.size) : Grown t u parent (row ++ row') := by
  obtain ⟨ids, hchildren, hmarkup, hlabels⟩ := h.added
  obtain ⟨ids', hchildren', hmarkup', hlabels'⟩ := h'.added
  have kept : ∀ x ∈ ids, u.subtree x = v.subtree x ∧ u.markup x = v.markup x := by
    intro x hx
    have hspan : x ∈ span t.size v.size := by
      rw [← hlabels]
      exact List.mem_flatMap.2 ⟨x, hx, mem_labels_subtree h.ordered.forest x⟩
    obtain ⟨hlow, hhigh⟩ := mem_span.1 hspan
    refine h.ordered.below_congr h'.ordered.forest (fun y hy hlt => ?_) hlow hhigh
    refine ⟨h'.node_eq y hlt, h'.children_eq y hlt ?_⟩
    rintro rfl
    omega
  constructor
  · exact h'.ordered
  · exact Nat.le_trans h.size_le h'.size_le
  · intro x hx
    rw [h'.node_eq x (Nat.lt_of_lt_of_le hx h.size_le), h.node_eq x hx]
  · intro x hx hne
    rw [h'.children_eq x (Nat.lt_of_lt_of_le hx h.size_le) hne, h.children_eq x hx hne]
  · refine ⟨ids ++ ids', ?_, ?_, ?_⟩
    · rw [hchildren', hchildren, List.append_assoc]
    · rw [List.map_append, hmarkup', List.map_congr_left fun x hx => (kept x hx).2, hmarkup]
    · rw [List.flatMap_append, hlabels', ← span_append h.size_le h'.size_le, ← hlabels]
      congr 1
      exact List.flatMap_congr fun x hx => by rw [(kept x hx).1]

/-- While a new node gets what stands below it, nothing else changes. -/
theorem old_of_push {n : Node} {id : NodeId} (ht : t.IsForest) (hid : id.index = t.size)
    (h : Grown (t.push n).1 v id row) {x : NodeId} (hx : x.index < t.size) :
    v.node x = t.node x ∧ v.children x = t.children x := by
  have hpush : x.index < (t.push n).1.size := by
    rw [Arena.size_push]
    omega
  have hne : x ≠ id := by
    rintro rfl
    omega
  constructor
  · rw [h.node_eq x hpush, node_push, if_neg (Nat.ne_of_lt hx)]
  · rw [h.children_eq x hpush hne, ht.children_push]

/-- A new node is given what is to stand below it, and then it is placed. -/
theorem place {n : Node} {id : NodeId} (ht : t.Ordered) (hid : id.index = t.size)
    (h : Grown (t.push n).1 v id row) (hparent : parent.index < t.size) :
    Grown t (v.append parent id) parent [.node n row] := by
  have hv := h.ordered.forest
  have hsize : t.size + 1 ≤ v.size := by
    rw [← Arena.size_push t n]
    exact h.size_le
  have hlt : id.index < v.size := by omega
  have before : parent.index < id.index := by omega
  have free : ∀ p, id ∉ v.children p := by
    intro p hp
    have hpid := h.ordered.index_lt hp
    rw [(h.old_of_push ht.forest hid (by omega)).2] at hp
    have := ht.forest.child_lt hp
    omega
  have placed := children_append_of_free hv hlt (Nat.lt_trans before hlt) free
  have ordered : Ordered (v.append parent id) := h.ordered.append hlt before free
  -- the new node comes to its place with what it was given
  have same : ∀ x : NodeId, t.size ≤ x.index → x.index < v.size →
      node (v.append parent id) x = v.node x ∧
        (v.append parent id).children x = v.children x := by
    intro x hx _
    refine ⟨node_append v _ _ x, ?_⟩
    rw [placed, if_neg]
    rintro rfl
    omega
  obtain ⟨hsubtree, hmarkup⟩ :=
    h.ordered.below_congr ordered.forest same (Nat.le_of_eq hid.symm) hlt
  obtain ⟨ids, hids, hrow, hlabels⟩ := h.added
  rw [ht.forest.children_push, Arena.children_eq_nil (Nat.le_of_eq hid.symm),
    List.nil_append] at hids
  have hself : v.node id = n := by
    rw [h.node_eq id (by rw [Arena.size_push]; omega), node_push, if_pos hid]
  constructor
  · exact ordered
  · rw [Arena.size_append]
    omega
  · intro x hx
    rw [node_append, (h.old_of_push ht.forest hid hx).1]
  · intro x hx hne
    rw [placed, if_neg hne, (h.old_of_push ht.forest hid hx).2]
  · refine ⟨[id], ?_, ?_, ?_⟩
    · rw [placed, if_pos rfl, (h.old_of_push ht.forest hid hparent).2]
    · rw [List.map_singleton, hmarkup, markup_eq hv, hself, hids, hrow]
    · obtain rfl : id = ⟨t.size⟩ := congrArg NodeId.mk hid
      rw [Arena.size_push] at hlabels
      rw [List.flatMap_singleton, hsubtree, hv.subtree_eq, Rose.labels_node, hids,
        List.flatMap_map, hlabels, Arena.size_append, span_cons hlt]

end Grown

/-! ## A tree is copied

The recursion follows the tree that was read. For a node with children it makes the node, copies
the row below it, and puts the node in its place when the row is complete. -/

mutual

/-- **One tree**: the node, if it is kept, comes after the children of `parent`, with all that is
kept of what is below it. The nodes that are made have the next numbers of the arena, which is why
the order of the numbers is that of the document. -/
theorem grown_copyDom : ∀ (dom : Dom) {t : Tree} {parent : NodeId}, t.Ordered →
    parent.index < t.size → Grown t (copyDom t parent dom) parent (kept dom).toList
  | .node label children, t, parent, h, hparent => by
    cases label with
    | element tag attributes =>
      rw [copyDom, kept]
      refine Grown.place h rfl (grown_copyDoms children (h.push Label.noConfusion) ?_) hparent
      simp
    | text value =>
      rw [copyDom, kept]
      exact Grown.place h rfl (Grown.nil (h.push Label.noConfusion) _) hparent
    | comment value =>
      rw [copyDom, kept]
      exact Grown.place h rfl (Grown.nil (h.push Label.noConfusion) _) hparent
    | other =>
      rw [copyDom, kept]
      exact Grown.nil h parent

/-- **A row of trees**, one after the other. The two are proved together, by recursion on the tree
and on the row. -/
theorem grown_copyDoms : ∀ (doms : List Dom) {t : Tree} {parent : NodeId}, t.Ordered →
    parent.index < t.size → Grown t (copyDoms t parent doms) parent (keptAll doms)
  | [], t, parent, h, _ => by
    rw [copyDoms, keptAll]
    exact Grown.nil h parent
  | dom :: doms, t, parent, h, hparent => by
    rw [copyDoms, keptAll]
    have first := grown_copyDom dom h hparent
    have later := Nat.lt_of_lt_of_le hparent first.size_le
    exact first.trans (grown_copyDoms doms first.ordered later) hparent

end

/-- **The document is faithful to what was read**: its links are those of a tree, and the check of
them says so; it holds what was read, in its order and with all its values, without the nodes of
a sort that no document has; every node of the arena is in it, none was left outside; and the
positions of the nodes count them in the order in which they are read, from the root on. -/
theorem ofDom_holds_keptAll (doms : List Dom) :
    (ofDom doms).WellFormed ∧ (ofDom doms).isConsistent = true ∧
      (ofDom doms).markup root = .node .emptyDocument (keptAll doms) ∧
      (∀ x : NodeId, x.index < (ofDom doms).size → (ofDom doms).Within root x) ∧
      ((ofDom doms).subtree root).labels = (List.range (ofDom doms).size).map NodeId.mk := by
  have grown : Grown empty (ofDom doms) root (keptAll doms) :=
    grown_copyDoms doms ordered_empty Nat.one_pos
  have wellFormed : (ofDom doms).WellFormed := grown.ordered.toWellFormed
  obtain ⟨ids, hids, hmarkup, hlabels⟩ := grown.added
  have hroot : (ofDom doms).children root = ids := hids
  -- in preorder the nodes come in the order in which they were made, the root first
  have labels : ((ofDom doms).subtree root).labels = span 0 (ofDom doms).size := by
    have first : span 0 (ofDom doms).size = root :: span 1 (ofDom doms).size :=
      span_cons wellFormed.root_lt
    rw [wellFormed.forest.subtree_eq, Rose.labels_node, hroot, List.flatMap_map, hlabels, first]
    rfl
  refine ⟨wellFormed, wellFormed.forest.isConsistent_eq_true wellFormed.root_lt, ?_, ?_, ?_⟩
  · rw [markup_eq wellFormed.forest, hroot, hmarkup, grown.node_eq root Nat.one_pos]
    rfl
  · intro x hx
    refine within_of_mem_labels wellFormed.forest root ?_
    rw [labels, mem_span]
    exact ⟨Nat.zero_le _, hx⟩
  · rw [labels, span, Nat.sub_zero, List.range_eq_range']

end Tree

end Tagdown
