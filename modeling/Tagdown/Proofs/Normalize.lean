import Tagdown.Normalize
import Tagdown.Proofs.Arena.Height
import Tagdown.Proofs.Document.WellFormed

/-!
# What the passes over white space leave behind

The passes make two kinds of steps only: they take a node out, or give a node another value
(`Trim`). `Trims t u` says that such steps lead from `t` to `u`, and every pass is of this kind,
whatever it looks at (`trims_normalize`). So a pass can shorten the lists of children and do
nothing else to them, which carries most facts about a document through all passes at once.

The one thing that a pass must be followed for is that no comment is left
(`normalize_noComments`).
-/

namespace Tagdown.Tree

/-- A step of normalization: one node taken out, or one value changed. -/
inductive Trim (t : Tree) : Tree → Prop where
  | detach (id : NodeId) : Trim t (t.detach id)
  | setValue (id : NodeId) (value : String) : Trim t (t.setValue id value)

/-- Any number of such steps. -/
def Trims : Tree → Tree → Prop :=
  Relation.ReflTransGen Trim

/-- No node below `id` is a comment. -/
def NoComments (t : Tree) (id : NodeId) : Prop :=
  ∀ x, t.Below id x → t.label x ≠ .comment

variable {t u : Tree}

/-! ## Every pass is made of such steps

Each pass is a loop over children or a recursion on a bound, and all that it does to the arena is
to detach nodes and to write texts. So by induction along its code it is a sequence of trims. -/

theorem Trims.refl (t : Tree) : Trims t t :=
  Relation.ReflTransGen.refl

theorem Trims.trans {v : Tree} (h : Trims t u) (h' : Trims u v) : Trims t v :=
  Relation.ReflTransGen.trans h h'

theorem trims_detach (t : Tree) (id : NodeId) : Trims t (t.detach id) :=
  Relation.ReflTransGen.single (.detach id)

theorem trims_setValue (t : Tree) (id : NodeId) (value : String) : Trims t (t.setValue id value) :=
  Relation.ReflTransGen.single (.setValue id value)

/-- To go through nodes one by one is to trim, if each turn is. -/
theorem trims_foldl {f : Tree → NodeId → Tree} (hf : ∀ t id, Trims t (f t id)) :
    ∀ (ids : List NodeId) (t : Tree), Trims t (ids.foldl f t) := by
  intro ids
  induction ids with
  | nil => exact Trims.refl
  | cons id ids ih => exact fun t => (hf t id).trans (ih (f t id))

/-- A text that is merged into the one before gives it a value and goes. -/
theorem trims_mergeIntoPrevious (t : Tree) (id : NodeId) : Trims t (t.mergeIntoPrevious id) := by
  rw [mergeIntoPrevious]
  split
  · split
    · exact (trims_setValue t _ _).trans (trims_detach _ id)
    · exact Trims.refl t
  · exact Trims.refl t

/-- What the pass that strips comments does to one child. -/
def stripChild (fuel : Nat) (t : Tree) (child : NodeId) : Tree :=
  match t.label child with
  | .comment => t.detach child
  | .element _ _ => stripComments fuel t child
  | .document => stripComments fuel t child
  | .text => t

/-- All children have their turn before the first two texts are merged. -/
theorem stripComments_succ (fuel : Nat) (t : Tree) (id : NodeId) :
    stripComments (fuel + 1) t id =
      (Arena.children ((t.children id).foldl (stripChild fuel) t) id).foldl mergeIntoPrevious
        ((t.children id).foldl (stripChild fuel) t) :=
  rfl

/-- A turn takes a comment out or goes on below an element. -/
theorem trims_stripChild {fuel : Nat} (ih : ∀ t id, Trims t (stripComments fuel t id)) (t : Tree)
    (child : NodeId) : Trims t (stripChild fuel t child) := by
  rw [stripChild]
  split
  · exact trims_detach t child
  · exact ih t child
  · exact ih t child
  · exact Trims.refl t

/-- The first pass trims a document, by induction on the levels that it goes through. -/
theorem trims_stripComments (fuel : Nat) :
    ∀ (t : Tree) (id : NodeId), Trims t (stripComments fuel t id) := by
  induction fuel with
  | zero => exact fun t _ => Trims.refl t
  | succ fuel ih =>
    intro t id
    rw [stripComments_succ]
    exact (trims_foldl (trims_stripChild ih) _ t).trans (trims_foldl trims_mergeIntoPrevious _ _)

/-- Trimming at the start takes texts out and writes into one. -/
theorem trims_trimStart (fuel : Nat) (id : NodeId) : ∀ t : Tree, Trims t (trimStart fuel t id) := by
  induction fuel with
  | zero => exact Trims.refl
  | succ fuel ih =>
    intro t
    rw [trimStart]
    split
    · exact Trims.refl t
    · dsimp only
      split
      · split
        · exact (trims_detach t _).trans (ih _)
        · exact trims_setValue t _ _
      · exact Trims.refl t

/-- The same at the end. -/
theorem trims_trimEnd (fuel : Nat) (id : NodeId) : ∀ t : Tree, Trims t (trimEnd fuel t id) := by
  induction fuel with
  | zero => exact Trims.refl
  | succ fuel ih =>
    intro t
    rw [trimEnd]
    split
    · exact Trims.refl t
    · dsimp only
      split
      · split
        · exact (trims_detach t _).trans (ih _)
        · exact trims_setValue t _ _
      · exact Trims.refl t

theorem trims_trimContent (t : Tree) (id : NodeId) : Trims t (t.trimContent id) :=
  (trims_trimStart _ id t).trans (trims_trimEnd _ id _)

/-- A text is kept, written into or taken out. -/
theorem trims_normalizeText (options : Options) (t : Tree) (id : NodeId) :
    Trims t (normalizeText options t id) := by
  rw [normalizeText]
  split
  · exact Trims.refl t
  · dsimp only
    split
    · exact Trims.refl t
    · split
      · split
        · exact trims_detach t id
        · exact trims_setValue t id _
      · exact trims_setValue t id _

/-- The second pass trims a document, level by level. -/
theorem trims_normalizeNode (options : Options) (fuel : Nat) :
    ∀ (t : Tree) (id : NodeId), Trims t (normalizeNode options fuel t id) := by
  induction fuel with
  | zero => exact fun t _ => Trims.refl t
  | succ fuel ih =>
    intro t id
    have hchildren : Trims t
        (((if t.shouldTrim options id then t.trimContent id else t).children id).foldl
          (normalizeNode options fuel)
          (if t.shouldTrim options id then t.trimContent id else t)) := by
      split
      · exact (trims_trimContent t id).trans (trims_foldl ih _ _)
      · exact trims_foldl ih _ t
    rw [normalizeNode]
    split
    · exact trims_normalizeText options t id
    · exact trims_detach t id
    · exact hchildren
    · exact hchildren

/-- **Normalization trims a document**: it takes nodes out and writes into texts, and does nothing
else. What is kept by each of these steps is kept by normalization, and each of the next facts is of
this kind. -/
theorem trims_normalize (t : Tree) (options : Options) : Trims t (t.normalize options) :=
  (trims_stripComments t.size t root).trans (trims_normalizeNode options _ _ root)

/-! ## What such steps keep

What one step keeps, any number of steps keep: the number of nodes, their labels, the links of a
forest, and the order of the children that are left. -/

/-- No node is made. -/
theorem Trim.size_eq (h : Trim t u) : u.size = t.size := by
  cases h with
  | detach id => exact Arena.size_detach t id
  | setValue id value => exact Arena.size_modifyPayload t id _

/-- What a node is, with its tag and its attributes, does not change. -/
theorem Trim.label_eq (h : Trim t u) (x : NodeId) : u.label x = t.label x := by
  cases h with
  | detach id => exact label_of_node_eq (node_detach t id x)
  | setValue id value => exact label_setValue t id x value

/-- The links stay those of a forest. -/
theorem Trim.isForest (h : Trim t u) (ht : t.IsForest) : u.IsForest := by
  cases h with
  | detach id => exact ht.detach id
  | setValue id value => exact ht.modifyPayload id _

/-- Children can go, and those that stay are in the same order. -/
theorem Trim.children_sublist (h : Trim t u) (ht : t.IsForest) (p : NodeId) :
    (u.children p).Sublist (t.children p) := by
  cases h with
  | detach id =>
    rw [ht.children_detach]
    exact Arena.splice_nil_sublist id _
  | setValue id value =>
    rw [Tree.setValue, ht.children_modifyPayload]

/-- No node is made by any number of such changes. -/
theorem Trims.size_eq (h : Trims t u) : u.size = t.size := by
  induction h with
  | refl => rfl
  | tail _ hstep ih => rw [hstep.size_eq, ih]

/-- What a node is does not change by any number of them. -/
theorem Trims.label_eq (h : Trims t u) (x : NodeId) : u.label x = t.label x := by
  induction h with
  | refl => rfl
  | tail _ hstep ih => rw [hstep.label_eq, ih]

/-- The links stay those of a forest throughout. -/
theorem Trims.isForest (h : Trims t u) (ht : t.IsForest) : u.IsForest := by
  induction h with
  | refl => exact ht
  | tail _ hstep ih => exact hstep.isForest ih

/-- The children that are left are some of those that were there, in the same order. -/
theorem Trims.children_sublist (h : Trims t u) (ht : t.IsForest) (p : NodeId) :
    (u.children p).Sublist (t.children p) := by
  induction h with
  | refl => exact List.Sublist.refl _
  | tail hsteps hstep ih =>
    exact (hstep.children_sublist (Trims.isForest hsteps ht) p).trans ih

/-- No way down becomes longer. -/
theorem Trims.heightLe (h : Trims t u) (ht : t.IsForest) {n : Nat} {id : NodeId}
    (height : t.HeightLe n id) : u.HeightLe n id :=
  height.of_subset fun p => (h.children_sublist ht p).subset

/-- A node is moved to no other parent. -/
theorem Trims.parent_eq (h : Trims t u) (ht : t.IsForest) {p x : NodeId}
    (hx : u.parent x = some p) : t.parent x = some p := by
  rw [← ht.mem_iff]
  exact (h.children_sublist ht p).subset ((h.isForest ht).mem_iff.2 hx)

/-- What is below a node now has been below it before. -/
theorem Trims.below (h : Trims t u) (ht : t.IsForest) {p x : NodeId} (hx : u.Below p x) :
    t.Below p x :=
  hx.mono (h.parent_eq ht)

/-- A well-formed document stays one. -/
theorem Trims.wellFormed (h : Trims t u) (ht : t.WellFormed) : u.WellFormed :=
  ht.of_frame (h.isForest ht.forest) h.size_eq h.label_eq

/-- No leaf comes to have children. -/
theorem Trims.leavesBare (h : Trims t u) (ht : t.IsForest) {id : NodeId} (bare : t.LeavesBare id) :
    u.LeavesBare id := by
  intro x hx hlabel
  rw [h.label_eq] at hlabel
  have hsub := h.children_sublist ht x
  rw [bare x (h.below ht hx) hlabel] at hsub
  exact List.sublist_nil.1 hsub

/-- No comment comes to stand below a node. -/
theorem Trims.noComments (h : Trims t u) (ht : t.IsForest) {id : NodeId} (clean : t.NoComments id) :
    u.NoComments id := by
  intro x hx
  rw [h.label_eq]
  exact clean x (h.below ht hx)

/-! ## No comment is left

A comment that a pass has come to is detached, and nothing is ever put anywhere, so it does not
come back. That the pass comes to all of them is the bound: no way down is longer than the arena
has nodes. -/

/-- If no leaf below a node has children, none has below a node further down. -/
theorem LeavesBare.of_below {p id : NodeId} (bare : t.LeavesBare p) (hid : t.Below p id) :
    t.LeavesBare id :=
  fun x hx => bare x (hid.trans hx)

/-- Nothing stands below a node without children. -/
theorem noComments_of_children_eq_nil (ht : t.IsForest) {id : NodeId}
    (hid : t.children id = []) : t.NoComments id := by
  intro x hx
  obtain ⟨c, hc, -⟩ := hx.cases_child
  rw [← ht.mem_iff, hid] at hc
  cases hc

/-- The node is no comment, and none stands below it. -/
def CommentFree (t : Tree) (id : NodeId) : Prop :=
  t.label id ≠ .comment ∧ t.NoComments id

/-- Where no comment was left, none comes back. -/
theorem Trims.commentFree (h : Trims t u) (ht : t.IsForest) {id : NodeId}
    (free : t.CommentFree id) : u.CommentFree id := by
  refine ⟨?_, h.noComments ht free.2⟩
  rw [h.label_eq]
  exact free.1

/-- A child that has had its turn is free of comments, or is a child no longer. -/
theorem stripChild_commentFree {fuel : Nat} (ht : t.IsForest) {id c : NodeId}
    (bare : t.LeavesBare id) (ih : (stripComments fuel t c).NoComments c)
    (hc : c ∈ Arena.children (stripChild fuel t c) id) : (stripChild fuel t c).CommentFree c := by
  have stripped (hlabel : t.label c ≠ .comment) : (stripComments fuel t c).CommentFree c := by
    refine ⟨?_, ih⟩
    rw [(trims_stripComments fuel t c).label_eq]
    exact hlabel
  rw [stripChild] at hc ⊢
  split at hc
  · rw [ht.children_detach, Arena.mem_splice_nil] at hc
    exact absurd rfl hc.2
  · rename_i hlabel
    exact stripped (by rw [hlabel]; exact Label.noConfusion)
  · rename_i hlabel
    exact stripped (by rw [hlabel]; exact Label.noConfusion)
  · rename_i hlabel
    refine ⟨by rw [hlabel]; exact Label.noConfusion, ?_⟩
    exact noComments_of_children_eq_nil ht (bare c (ht.below_of_mem hc) (Or.inl hlabel))

/-- When the pass over the children is through, those that are still there are free of
comments: later turns only trim what an earlier one left. -/
theorem stripChildren_commentFree {fuel : Nat} {id : NodeId}
    (ih : ∀ (t : Tree) (id : NodeId), t.IsForest → t.HeightLe fuel id → t.LeavesBare id →
      (stripComments fuel t id).NoComments id) :
    ∀ (rest : List NodeId) (t : Tree), t.IsForest → t.LeavesBare id →
      (∀ c ∈ rest, t.HeightLe fuel c ∧ t.LeavesBare c) →
      ∀ c ∈ rest, c ∈ Arena.children (rest.foldl (stripChild fuel) t) id →
        CommentFree (rest.foldl (stripChild fuel) t) c := by
  intro rest
  induction rest with
  | nil => intro t _ _ _ c hc; cases hc
  | cons c rest ihrest =>
    intro t ht bare hrest x hx hxw
    obtain ⟨hheight, hbare⟩ := hrest c List.mem_cons_self
    have hstep := trims_stripChild (trims_stripComments fuel) t c
    have hlater := trims_foldl (trims_stripChild (trims_stripComments fuel)) rest
      (stripChild fuel t c)
    rcases List.mem_cons.1 hx with rfl | hx
    -- the child whose turn this is, and the turns of the others after it
    · refine hlater.commentFree (hstep.isForest ht) ?_
      refine stripChild_commentFree ht bare (ih t x ht hheight hbare) ?_
      exact (hlater.children_sublist (hstep.isForest ht) id).subset hxw
    · refine ihrest _ (hstep.isForest ht) (hstep.leavesBare ht bare) ?_ x hx hxw
      intro y hy
      obtain ⟨hyheight, hybare⟩ := hrest y (List.mem_cons_of_mem c hy)
      exact ⟨hstep.heightLe ht hyheight, hstep.leavesBare ht hybare⟩

/-- **The first pass leaves no comment** below a node where no leaf has children. A comment that
goes takes along what is below it, and below the other children there is none by induction. -/
theorem stripComments_noComments (fuel : Nat) :
    ∀ (t : Tree) (id : NodeId), t.IsForest → t.HeightLe fuel id → t.LeavesBare id →
      (stripComments fuel t id).NoComments id := by
  induction fuel with
  | zero => exact fun _ _ _ hheight => hheight.elim
  | succ fuel ih =>
    intro t id ht hheight bare
    have hpass := trims_foldl (trims_stripChild (trims_stripComments fuel)) (t.children id) t
    have hfree := stripChildren_commentFree ih (t.children id) t ht bare
      fun c hc => ⟨hheight c hc, bare.of_below (ht.below_of_mem hc)⟩
    rw [stripComments_succ]
    -- texts that are merged bring no comment back
    refine (trims_foldl trims_mergeIntoPrevious _ _).noComments (hpass.isForest ht) ?_
    intro x hx
    obtain ⟨c, hc, hcx⟩ := hx.cases_child
    rw [← (hpass.isForest ht).mem_iff] at hc
    obtain ⟨hlabel, hbelow⟩ := hfree c ((hpass.children_sublist ht id).subset hc) hc
    rcases hcx with rfl | hcx
    · exact hlabel
    · exact hbelow x hcx

/-- **No comment is left** by normalization anywhere below the root. The first pass takes them out,
and the second one makes none. -/
theorem normalize_noComments (h : t.WellFormed) (bare : t.LeavesBare root) (options : Options) :
    (t.normalize options).NoComments root := by
  have hstrip := trims_stripComments t.size t root
  refine (trims_normalizeNode options _ _ root).noComments (hstrip.isForest h.forest) ?_
  exact stripComments_noComments t.size t root h.forest (h.forest.heightLe_size h.root_lt) bare

/-! ## Normalized documents

`Clean` gathers what the conversion relies on: a well-formed document without comments, in which
texts have no children. -/

/-- Below the root there are elements, and texts without children, and nothing else. -/
structure Clean (t : Tree) : Prop where
  wellFormed : t.WellFormed
  cases_below : ∀ {x}, t.Below root x →
    t.isElement x = true ∨ (t.label x = .text ∧ t.children x = [])

/-- A normalized document is clean: the second pass brings no comment back. -/
theorem clean_normalize (h : t.WellFormed) (bare : t.LeavesBare root) (options : Options) :
    (t.normalize options).Clean := by
  have trims := trims_normalize t options
  refine ⟨trims.wellFormed h, ?_⟩
  intro x hx
  rcases hlabel : (t.normalize options).label x with _ | ⟨tag, attributes⟩ | _ | _
  · exact absurd hlabel ((trims.wellFormed h).label_ne_document hx)
  · left
    rw [isElement, hlabel]
    rfl
  · exact Or.inr ⟨rfl, trims.leavesBare h.forest bare x hx (Or.inl hlabel)⟩
  · exact absurd hlabel (normalize_noComments h bare options x hx)

end Tagdown.Tree
