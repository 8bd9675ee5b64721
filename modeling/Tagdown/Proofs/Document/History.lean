import Tagdown.Proofs.Arena.Consistency
import Tagdown.Proofs.Normalize

/-!
# Histories of a document

A document starts out empty and is changed by one edit after the other. An edit may name any
nodes, in the tree or taken out of it, as long as it does not put a node below itself
(`Edit.Allowed`). `Edit.wellFormed_apply` is the one step of which everything else here is
made: after any such history the links of all nodes agree, and the check of them says so.
-/

namespace Tagdown.Tree

/-- One call that makes or changes nodes. -/
inductive Edit where
  | createElement (tag : String) (attributes : List Attribute)
  | createText (value : String)
  | createComment (value : String)
  | append (parent child : NodeId)
  | insertBefore (reference node : NodeId)
  | detach (id : NodeId)
  | replace (old new : NodeId)
  | unwrap (id : NodeId)
  | setValue (id : NodeId) (value : String)
  | normalize (options : Options)

namespace Edit

/-- The document after an edit. -/
def apply (t : Tree) : Edit → Tree
  | createElement tag attributes => (t.createElement tag attributes).1
  | createText value => (t.createText value).1
  | createComment value => (t.createComment value).1
  | append parent child => Arena.append t parent child
  | insertBefore reference node => Arena.insertBefore t reference node
  | detach id => Arena.detach t id
  | replace old new => Arena.replace t old new
  | unwrap id => Arena.unwrap t id
  | setValue id value => t.setValue id value
  | normalize options => t.normalize options

/-- What is placed is a node of the document, and it does not come to stand under itself or
under a node below it. A node that is put before `r`, or into the place of `r`, comes to stand
under the parent of `r`, and that parent is the node or below it just when `r` is below it. -/
def Allowed (t : Tree) : Edit → Prop
  | append parent child =>
    parent.index < t.size ∧ child.index < t.size ∧ parent ≠ child ∧ ¬ t.Below child parent
  | insertBefore reference node => node.index < t.size ∧ ¬ t.Below node reference
  | replace old new => new.index < t.size ∧ ¬ t.Below new old
  | _ => True

/-- The check of `Allowed` for a document in which every way up has an end. -/
def isAllowed (t : Tree) : Edit → Bool
  | append parent child =>
    parent.index < t.size && child.index < t.size && parent != child &&
      t.avoids child t.size parent
  | insertBefore reference node => node.index < t.size && t.avoids node t.size reference
  | replace old new => new.index < t.size && t.avoids new t.size old
  | _ => true

/-- For a given edit of a given document it can be computed that it is allowed. -/
theorem allowed_of_isAllowed {t : Tree} {e : Edit} (h : e.isAllowed t = true) : e.Allowed t := by
  cases e with
  | append parent child =>
    simp only [isAllowed, Bool.and_eq_true, decide_eq_true_iff, bne_iff_ne] at h
    obtain ⟨⟨⟨hparent, hchild⟩, hne⟩, havoids⟩ := h
    exact ⟨hparent, hchild, hne, Arena.not_below_of_avoids havoids⟩
  | insertBefore reference node =>
    simp only [isAllowed, Bool.and_eq_true, decide_eq_true_iff] at h
    exact ⟨h.1, Arena.not_below_of_avoids h.2⟩
  | replace old new =>
    simp only [isAllowed, Bool.and_eq_true, decide_eq_true_iff] at h
    exact ⟨h.1, Arena.not_below_of_avoids h.2⟩
  | _ => trivial

/-- **One step**: an allowed edit of a well-formed document leaves a well-formed document. There is
a case for each kind of edit, and a whole history follows by induction. -/
theorem wellFormed_apply {t : Tree} (h : t.WellFormed) (e : Edit) (he : e.Allowed t) :
    (e.apply t).WellFormed := by
  cases e with
  | createElement tag attributes => exact h.push Label.noConfusion
  | createText value => exact h.push Label.noConfusion
  | createComment value => exact h.push Label.noConfusion
  | append parent child =>
    obtain ⟨hparent, hchild, hne, hbelow⟩ := he
    exact h.of_frame (h.forest.append hparent hchild hne hbelow) (Arena.size_append t _ _)
      fun x => label_of_node_eq (node_append t _ _ x)
  | insertBefore reference node =>
    obtain ⟨hnode, hbelow⟩ := he
    exact h.of_frame (h.forest.insertBefore hnode hbelow) (Arena.size_insertBefore t _ _)
      fun x => label_of_node_eq (node_insertBefore t _ _ x)
  | detach id => exact (trims_detach t id).wellFormed h
  | replace old new =>
    obtain ⟨hnew, hbelow⟩ := he
    exact h.of_frame (h.forest.replace hnew hbelow) (Arena.size_replace t _ _)
      fun x => label_of_node_eq (node_replace t _ _ x)
  | unwrap id =>
    exact h.of_frame (h.forest.unwrap id) (Arena.size_unwrap t id)
      fun x => label_of_node_eq (node_unwrap t id x)
  | setValue id value => exact (trims_setValue t id value).wellFormed h
  | normalize options => exact (trims_normalize t options).wellFormed h

end Edit

/-- The document after a history of edits. -/
def run (t : Tree) (edits : List Edit) : Tree :=
  edits.foldl Edit.apply t

/-- Each edit is allowed in the document that those before it have left. -/
def AllAllowed : Tree → List Edit → Prop
  | _, [] => True
  | t, e :: edits => e.Allowed t ∧ AllAllowed (e.apply t) edits

/-- The check of `AllAllowed`, going up from each place where a node is put. -/
def areAllowed : Tree → List Edit → Bool
  | _, [] => true
  | t, e :: edits => e.isAllowed t && areAllowed (e.apply t) edits

/-- The same for a history, where each edit is looked at in the document that those before it have
made. -/
theorem allAllowed_of_areAllowed :
    ∀ {edits : List Edit} {t : Tree}, areAllowed t edits = true → AllAllowed t edits := by
  intro edits
  induction edits with
  | nil => exact fun _ => trivial
  | cons e edits ih =>
    intro t h
    rw [areAllowed, Bool.and_eq_true] at h
    exact ⟨Edit.allowed_of_isAllowed h.1, ih h.2⟩

/-- By induction on the edits. -/
theorem WellFormed.run :
    ∀ (edits : List Edit) {t : Tree}, t.WellFormed → AllAllowed t edits →
      (t.run edits).WellFormed := by
  intro edits
  induction edits with
  | nil => exact fun h _ => h
  | cons e edits ih =>
    intro t h hall
    obtain ⟨he, hedits⟩ := hall
    exact ih (Edit.wellFormed_apply h e he) hedits

/-- **Every history leaves a forest**: in whatever order nodes are made, moved, taken out and
unwrapped, and whenever white space is normalized, the links of all nodes agree, of those that
were taken out too, and `isConsistent` answers that they do. -/
theorem isForest_and_isConsistent_run (edits : List Edit) (hall : AllAllowed Tree.empty edits) :
    (Tree.empty.run edits).IsForest ∧ (Tree.empty.run edits).isConsistent = true := by
  have h := WellFormed.run edits wellFormed_empty hall
  exact ⟨h.forest, h.forest.isConsistent_eq_true h.root_lt⟩

/-- A list whose item takes the place of the list itself, a comment and a text that change
places, an item that is unwrapped, and its old list put below it, outside of the tree. -/
def reshuffle : List Edit :=
  [.createElement "ul" [], .append root ⟨1⟩, .createElement "li" [], .append ⟨1⟩ ⟨2⟩,
   .createText "a", .append ⟨2⟩ ⟨3⟩, .replace ⟨1⟩ ⟨2⟩, .createComment "b",
   .insertBefore ⟨3⟩ ⟨4⟩, .insertBefore ⟨4⟩ ⟨3⟩, .unwrap ⟨2⟩, .append ⟨2⟩ ⟨1⟩, .normalize {}]

theorem isForest_and_isConsistent_reshuffle :
    AllAllowed Tree.empty reshuffle ∧
      (Tree.empty.run reshuffle).IsForest ∧ (Tree.empty.run reshuffle).isConsistent = true := by
  have allowed : AllAllowed Tree.empty reshuffle := allAllowed_of_areAllowed (by decide +kernel)
  exact ⟨allowed, isForest_and_isConsistent_run reshuffle allowed⟩

end Tagdown.Tree
