import Tagdown.Proofs.Document.Markup
import Tagdown.Proofs.Document.WellFormed

/-!
# What there is to see of a document

`Tree.contents` is the document below a node as an ordered tree of kinds, tags, attributes and
texts, and of nothing else: a text or a comment is a leaf in it, whatever may stand below it in the
arena, and elements and documents have no values. What is printed depends on the contents alone
(`Rose.write_contents`, `Rose.gatherText_contents`).

An edit changes the contents of those nodes only that it happens at or below. `Tree.SameOff S t u`
says that the nodes of `t` and `u` are the same in all places but those of `S`. So a node that has
no such place at or below it has its contents unchanged (`Tree.contents_congr`).
-/

namespace Tagdown

/-- What is below a node of this kind does not show. -/
def Label.isLeaf : Label → Bool
  | text => true
  | comment => true
  | _ => false

/-- An element is no leaf, even if it has no children. -/
theorem Label.isLeaf_of_isElement {label : Label} (h : label.isElement = true) :
    label.isLeaf = false := by
  cases label <;> simp_all [isElement, isLeaf]

namespace Rose

/-- A text as a tree. -/
def ofText (value : String) : Rose Node :=
  .node { label := .text, value } []

/-- An element with a row of trees in it. -/
def ofElement (tag : String) (attributes : List Attribute) (row : List (Rose Node)) : Rose Node :=
  .node { label := .element tag attributes } row

variable (r : Rose Node)

/-- The kind of the node at the top. -/
def kind : Label :=
  r.label.label

/-- The value of the node at the top. -/
def value : String :=
  r.label.value

/-- The same with another value at the top. -/
def withValue (value : String) : Rose Node :=
  .node { r.label with value } r.children

@[simp] theorem kind_withValue (value : String) : (r.withValue value).kind = r.kind := rfl

@[simp] theorem value_withValue (value : String) : (r.withValue value).value = value := rfl

@[simp] theorem withValue_value : r.withValue r.value = r := by
  cases r
  rfl

mutual

/-- The tree without all that does not show. -/
def contents : Rose Node → Rose Node
  | .node n children =>
    if n.label.isLeaf then .node n [] else .node { label := n.label } (contentsAll children)

/-- `contents` of each tree of a list. -/
def contentsAll : List (Rose Node) → List (Rose Node)
  | [] => []
  | t :: ts => contents t :: contentsAll ts

end

@[simp] theorem kind_contents : r.contents.kind = r.kind := by
  obtain ⟨n, children⟩ := r
  rw [contents]
  split <;> rfl

/-- Of a leaf the value shows. -/
theorem value_contents (h : r.kind.isLeaf = true) : r.contents.value = r.value := by
  obtain ⟨n, children⟩ := r
  rw [contents, if_pos (show n.label.isLeaf = true from h)]
  rfl

/-- Of any other node the children show, as far as there is something to see in each. -/
theorem children_contents (h : r.kind.isLeaf = false) :
    r.contents.children = contentsAll r.children := by
  obtain ⟨n, children⟩ := r
  rw [contents, if_neg (by rw [show n.label.isLeaf = false from h]; exact Bool.false_ne_true)]
  rfl

theorem contentsAll_eq_map (ts : List (Rose Node)) : contentsAll ts = ts.map contents := by
  induction ts with
  | nil => rw [contentsAll, List.map_nil]
  | cons t ts ih => rw [contentsAll, List.map_cons, ih]

mutual

/-- What is printed is what shows. -/
theorem write_contents (raw : Bool) : ∀ r : Rose Node, Node.write raw r.contents = Node.write raw r
  | .node n children => by
    rw [contents]
    rcases hlabel : n.label with _ | ⟨tag, attributes⟩ | _ | _
    · simp only [Label.isLeaf, Bool.false_eq_true, if_false, Node.write, hlabel]
      rw [writeAll_contents]
    · have hempty : (contentsAll children).isEmpty = children.isEmpty := by
        cases children <;> rfl
      simp only [Label.isLeaf, Bool.false_eq_true, if_false, Node.write, hlabel]
      rw [hempty, writeAll_contents]
    · simp only [Label.isLeaf, if_true, Node.write, hlabel]
    · simp only [Label.isLeaf, if_true, Node.write, hlabel]

/-- The same of a row. -/
theorem writeAll_contents (raw : Bool) :
    ∀ ts : List (Rose Node), Node.writeAll raw (contentsAll ts) = Node.writeAll raw ts
  | [] => rfl
  | t :: ts => by
    rw [contentsAll, Node.writeAll, Node.writeAll, write_contents raw t, writeAll_contents raw ts]

end

mutual

/-- So is the text without markup. -/
theorem gatherText_contents : ∀ r : Rose Node, Node.gatherText r.contents = Node.gatherText r
  | .node n children => by
    rw [contents]
    rcases hlabel : n.label with _ | ⟨tag, attributes⟩ | _ | _
    · simp only [Label.isLeaf, Bool.false_eq_true, if_false, Node.gatherText, hlabel]
    · simp only [Label.isLeaf, Bool.false_eq_true, if_false, Node.gatherText, hlabel]
      rw [gatherTexts_contents]
    · simp only [Label.isLeaf, if_true, Node.gatherText, hlabel]
    · simp only [Label.isLeaf, if_true, Node.gatherText, hlabel]

/-- The same of a row. -/
theorem gatherTexts_contents :
    ∀ ts : List (Rose Node), Node.gatherTexts (contentsAll ts) = Node.gatherTexts ts
  | [] => rfl
  | t :: ts => by
    rw [contentsAll, Node.gatherTexts, Node.gatherTexts, gatherText_contents t,
      gatherTexts_contents ts]

end

/-! ## Comparing -/

section Compare

variable {α : Type} [DecidableEq α]

mutual

/-- Two trees can be compared if their labels can. -/
def decEq : (r s : Rose α) → Decidable (r = s)
  | .node a ts, .node b us =>
    match (inferInstanceAs (Decidable (a = b))), decEqAll ts us with
    | isTrue h, isTrue h' => isTrue (by rw [h, h'])
    | isFalse h, _ => isFalse fun heq => h (Rose.node.inj heq).1
    | _, isFalse h => isFalse fun heq => h (Rose.node.inj heq).2

/-- So can two rows of trees. -/
def decEqAll : (ts us : List (Rose α)) → Decidable (ts = us)
  | [], [] => isTrue rfl
  | [], _ :: _ => isFalse (by simp)
  | _ :: _, [] => isFalse (by simp)
  | t :: ts, u :: us =>
    match decEq t u, decEqAll ts us with
    | isTrue h, isTrue h' => isTrue (by rw [h, h'])
    | isFalse h, _ => isFalse fun heq => h (List.cons.inj heq).1
    | _, isFalse h => isFalse fun heq => h (List.cons.inj heq).2

end

instance : DecidableEq (Rose α) := decEq

end Compare

end Rose

namespace Tree

variable {t u v : Tree}

/-- The document below a node, as far as it shows. -/
def contents (t : Tree) (id : NodeId) : Rose Node :=
  (t.markup id).contents

/-- **The contents of a node** by those of its children: this opens them without a bound on the
depth. It is used in place of the definition, which goes through the tree that is read off with
fuel. -/
theorem contents_eq (h : t.IsForest) (id : NodeId) :
    t.contents id =
      if (t.label id).isLeaf then .node (t.node id) []
      else .node { label := t.label id } ((t.children id).map t.contents) := by
  rw [contents, markup_eq h, Rose.contents, Rose.contentsAll_eq_map, List.map_map]
  rfl

/-- Of a leaf, nothing shows of what may stand below it. -/
theorem contents_of_leaf (h : t.IsForest) {id : NodeId} (hid : (t.label id).isLeaf = true) :
    t.contents id = .node (t.node id) [] := by
  rw [contents_eq h, if_pos hid]

/-- Of any other node, its own value does not show. -/
theorem contents_of_inner (h : t.IsForest) {id : NodeId} (hid : (t.label id).isLeaf = false) :
    t.contents id = .node { label := t.label id } ((t.children id).map t.contents) := by
  rw [contents_eq h, if_neg (by simp [hid])]

@[simp] theorem kind_contents (t : Tree) (id : NodeId) : (t.contents id).kind = t.label id := by
  rw [contents, Rose.kind_contents, Rose.kind, markup, Rose.label_map, Arena.label_subtree]
  rfl

/-- Only a leaf has a value that shows. -/
theorem value_contents {id : NodeId} (hid : (t.label id).isLeaf = true) :
    (t.contents id).value = t.value id := by
  rw [contents, Rose.value_contents, Rose.value, markup, Rose.label_map, Arena.label_subtree]
  · rfl
  · rw [Rose.kind, markup, Rose.label_map, Arena.label_subtree]
    exact hid

/-- Below a node that is no leaf, the contents are those of what would be printed. -/
theorem children_contents_markup {id : NodeId} (hid : (t.label id).isLeaf = false) :
    (t.markup id).contents.children = Rose.contentsAll (t.markup id).children := by
  refine Rose.children_contents _ ?_
  rw [← Rose.kind_contents]
  exact (kind_contents t id).symm ▸ hid

/-- A node is known by its contents, and so are the nodes in it. -/
theorem of_contents_inner (h : t.IsForest) {id : NodeId} {n : Node} {row : List (Rose Node)}
    (hid : t.contents id = .node n row) (hn : n.label.isLeaf = false) :
    t.label id = n.label ∧ (t.children id).map t.contents = row := by
  have hlabel : t.label id = n.label := by
    rw [← kind_contents, hid]
    rfl
  rw [contents_of_inner h (by rw [hlabel, hn])] at hid
  exact ⟨hlabel, (Rose.node.inj hid).2⟩

/-- What looks like a text is one. -/
theorem of_contents_ofText {id : NodeId} {value : String}
    (hid : t.contents id = Rose.ofText value) : t.label id = .text ∧ t.value id = value := by
  have hlabel : t.label id = .text := by
    rw [← kind_contents, hid]
    rfl
  refine ⟨hlabel, ?_⟩
  rw [← value_contents (by rw [hlabel]; rfl), hid]
  rfl

/-- What looks like an element is one, with children that look like its row. -/
theorem of_contents_ofElement (h : t.IsForest) {id : NodeId} {tag : String}
    {attributes : List Attribute} {row : List (Rose Node)}
    (hid : t.contents id = Rose.ofElement tag attributes row) :
    t.isElement id = true ∧ t.tagName id = tag ∧ (t.children id).map t.contents = row := by
  obtain ⟨hlabel, hchildren⟩ := of_contents_inner h hid rfl
  rw [isElement, tagName, hlabel]
  exact ⟨rfl, rfl, hchildren⟩

/-- What is inside a node, as it is printed. -/
theorem innerHtml_eq_contents {id : NodeId} (hid : (t.label id).isLeaf = false) :
    t.innerHtml id =
      Node.writeAll (Node.isRawTextTag (t.tagName id)) (t.contents id).children := by
  rw [innerHtml, contents, children_contents_markup hid, Rose.writeAll_contents]

/-- The text of a node that is no leaf is that of all its children. -/
theorem textContent_of_inner {id : NodeId} (hid : (t.label id).isLeaf = false) :
    t.textContent id = Node.gatherTexts (t.markup id).children := by
  rw [textContent]
  rcases hlabel : t.label id with _ | ⟨tag, attributes⟩ | _ | _
  · rfl
  · rfl
  · rw [hlabel] at hid; cases hid
  · rw [hlabel] at hid; cases hid

/-- The text of a node can be read off its contents. -/
theorem textContent_eq_contents {id : NodeId} (hid : (t.label id).isLeaf = false) :
    t.textContent id = Node.gatherTexts (t.contents id).children := by
  rw [contents, children_contents_markup hid, Rose.gatherTexts_contents, textContent_of_inner hid]

/-! ## The text of some nodes

Unwrapping and merging move nodes within a row and leave the text of the row as it is. The text
of several nodes is therefore looked at on its own. -/

/-- The text of some nodes with all that is in them, one after the other. -/
def gathered (t : Tree) (ids : List NodeId) : String :=
  Node.gatherTexts (ids.map t.markup)

theorem gathered_singleton (t : Tree) (x : NodeId) :
    t.gathered [x] = Node.gatherText (t.markup x) :=
  String.append_empty

/-- The texts of several nodes are taken one after the other. -/
theorem gathered_cons (t : Tree) (x : NodeId) (ids : List NodeId) :
    t.gathered (x :: ids) = t.gathered [x] ++ t.gathered ids := by
  simp [gathered, Node.gatherTexts]

/-- The texts of two rows are those of the one and then of the other. -/
theorem gathered_append (t : Tree) (ids ids' : List NodeId) :
    t.gathered (ids ++ ids') = t.gathered ids ++ t.gathered ids' := by
  rw [gathered, List.map_append, Node.gatherTexts_append, gathered, gathered]

/-- Only the text of each node counts, not where it stands. -/
theorem gathered_congr {ids : List NodeId} (h : ∀ x ∈ ids, u.gathered [x] = t.gathered [x]) :
    u.gathered ids = t.gathered ids := by
  induction ids with
  | nil => rfl
  | cons x ids ih =>
    rw [gathered_cons, gathered_cons t, h x List.mem_cons_self,
      ih fun y hy => h y (List.mem_cons_of_mem x hy)]

/-- The text of a node is what is gathered from its children. -/
theorem textContent_eq_gathered (h : t.IsForest) {p : NodeId} (hp : (t.label p).isLeaf = false) :
    t.textContent p = t.gathered (t.children p) := by
  rw [textContent_of_inner hp, gathered, markup_eq h, Rose.children]

/-- What a node adds is known by the node and the text that is in it. -/
theorem gathered_singleton_congr (ht : t.IsForest) (hu : u.IsForest) {x : NodeId}
    (hnode : u.node x = t.node x)
    (inside : u.gathered (u.children x) = t.gathered (t.children x)) :
    u.gathered [x] = t.gathered [x] := by
  rw [gathered, gathered] at inside
  rw [gathered_singleton, gathered_singleton, markup_eq hu, markup_eq ht, hnode, Node.gatherText,
    Node.gatherText, inside]

/-! ## Documents that differ in some places

An edit at one place leaves the contents of all nodes that it is not below. `SameOff` says where
two documents may differ, and `contents_congr` is how it is used. -/

/-- Off the places in `S`, the nodes of `t` and `u` are the same and have the same children. -/
def SameOff (S : NodeId → Prop) (t u : Tree) : Prop :=
  ∀ x, ¬ S x → u.node x = t.node x ∧ u.children x = t.children x

theorem SameOff.refl (S : NodeId → Prop) (t : Tree) : SameOff S t t :=
  fun _ _ => ⟨rfl, rfl⟩

/-- Two changes that spare the same nodes spare them together. -/
theorem SameOff.trans {S : NodeId → Prop} (h : SameOff S t u) (h' : SameOff S u v) :
    SameOff S t v :=
  fun x hx => ⟨(h' x hx).1.trans (h x hx).1, (h' x hx).2.trans (h x hx).2⟩

/-- What is unchanged outside of some nodes is so outside of more. -/
theorem SameOff.mono {S S' : NodeId → Prop} (h : SameOff S t u) (sub : ∀ x, S x → S' x) :
    SameOff S' t u :=
  fun x hx => h x fun hS => hx (sub x hS)

/-- To write into a node changes that node alone. -/
theorem sameOff_setValue (h : t.IsForest) (id : NodeId) (value : String) :
    SameOff (· = id) t (t.setValue id value) := by
  intro x hx
  refine ⟨?_, ?_⟩
  · rw [node, node, setValue, Arena.payload?_modifyPayload, if_neg hx]
  · rw [setValue, h.children_modifyPayload]

/-- To take a child out changes the children of its parent alone. -/
theorem sameOff_detach (h : t.IsForest) {p id : NodeId} (hid : id ∈ t.children p) :
    SameOff (· = p) t (t.detach id) := by
  intro x hx
  refine ⟨node_detach t id x, ?_⟩
  rw [h.children_detach, Arena.splice_eq_self]
  intro hmem
  exact hx (h.parent_unique hmem hid)

/-- A node has the same contents where all at or below it is the same. -/
theorem contents_congr {S : NodeId → Prop} (ht : t.IsForest) (hu : u.IsForest)
    (same : SameOff S t u) (id : NodeId) :
    (∀ x, t.Within id x → ¬ S x) → u.contents id = t.contents id := by
  induction id using ht.induction_below with
  | step id ih =>
    intro off
    obtain ⟨hnode, hchildren⟩ := same id (off id (t.within_self id))
    have hmap : (t.children id).map u.contents = (t.children id).map t.contents :=
      List.map_congr_left fun c hc =>
        ih c hc fun x hx => off x ((ht.within_of_mem hc).trans hx)
    rw [contents_eq ht, contents_eq hu, label_of_node_eq hnode, hnode, hchildren, hmap]

/-- A change at or below one child, and of the row of children itself, leaves the contents of the
others as they are. -/
theorem contents_sibling (ht : t.IsForest) (hu : u.IsForest) {p c d : NodeId}
    (same : SameOff (fun x => x = p ∨ t.Within c x) t u) (hc : c ∈ t.children p)
    (hd : d ∈ t.children p) (hne : d ≠ c) : u.contents d = t.contents d := by
  refine contents_congr ht hu same d fun x hx => ?_
  rintro (rfl | hcx)
  · exact ht.ne_of_within hd hx rfl
  · exact ht.not_within_of_sibling hd hc hne hx hcx

end Tree

end Tagdown
