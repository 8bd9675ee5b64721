import Tagdown.Proofs.Document.History
import Tagdown.Proofs.Normalize.Runs

/-!
# Comments go, and the texts that they kept apart become one

`stripComments` takes nodes out while it follows links, and reads the links that it has changed.
Node by node the outcome is this: of the runs that its children make, the first nodes stay and the
others go, and the first ones get the values of the runs (`MergedAt`). So no text is lost
(`stripped_stripComments`).

A pass over the children of a node has two halves. Comments are taken out and elements are passed
over one after the other (`Stripping`); then each text is added to the text that stands before it
now (`MergedRow`). In either half the children that were dealt with already are `done`, or `before`,
and what is said of them stays true, since siblings have nothing below them in common.
-/

namespace Tagdown.Tree

variable {t u v : Tree} {p c x : NodeId} {pieces : List (List NodeId)}

/-! ## Texts are added to those before them

The row is dealt with from its start. For the children before the one whose turn it is, only the
first nodes of their runs are left, and the last of these is the node that a text would be added
to. -/

section Merge

variable (hu : u.IsForest) {y : NodeId} {value : String}
include hu

/-- Of the other nodes none holds anything else than before. -/
theorem node_merge_of_ne (hx : x ≠ y) :
    node (Arena.detach (u.setValue y value) c) x = u.node x := by
  rw [node_detach, (sameOff_setValue hu y value x hx).1]

/-- A text that is merged goes from its row, and no other list changes. -/
theorem children_merge (q : NodeId) :
    (Arena.detach (u.setValue y value) c).children q = Arena.splice c [] (u.children q) := by
  have hset : (u.setValue y value).IsForest := hu.modifyPayload y _
  rw [hset.children_detach, setValue, hu.children_modifyPayload]

end Merge

/-- What the second half of a pass over the children of `p` has done with those in `before`. -/
structure MergedRow (t : Tree) (p : NodeId) (before after : List NodeId) (u : Tree) : Prop where
  trims : Trims t u
  children : u.children p = heads (t.cut before) ++ after
  children_off : ∀ q, q ≠ p → u.children q = t.children q
  value_first : ∀ run ∈ t.cut before, ∀ x ∈ run.head?, u.value x = t.values run
  node_eq : ∀ x, x ∉ heads (t.cut before) → u.node x = t.node x

namespace MergedRow

variable {before after : List NodeId}

/-- Before the first turn nothing has been done. -/
theorem start (t : Tree) (p : NodeId) : MergedRow t p [] (t.children p) t where
  trims := Trims.refl t
  children := rfl
  children_off _ _ := rfl
  value_first _ hrun := by cases hrun
  node_eq _ _ := rfl

/-- The node whose turn it is has not been dealt with. -/
theorem not_mem_heads (ht : t.IsForest) (h : MergedRow t p before (c :: after) u) :
    c ∉ heads (t.cut before) := by
  have hnodup := (h.trims.isForest ht).nodup p
  rw [h.children, List.nodup_middle, List.nodup_cons] at hnodup
  exact fun hc => hnodup.1 (List.mem_append_left _ hc)

/-- A node begins a run of its own. -/
theorem step_of_apart (ht : t.IsForest) (h : MergedRow t p before (c :: after) u)
    (apart : ∀ x ∈ before.getLast?, ¬ (t.isText x = true ∧ t.isText c = true)) :
    MergedRow t p (before ++ [c]) after u := by
  have hcut := cut_concat_of_apart apart
  have hheads : heads (t.cut (before ++ [c])) = heads (t.cut before) ++ [c] := by
    rw [hcut, heads_append]
    rfl
  constructor
  · exact h.trims
  · rw [hheads, h.children, List.append_assoc, List.singleton_append]
  · exact h.children_off
  · rw [hcut]
    intro run hrun x hx
    rcases List.mem_append.1 hrun with hrun | hrun
    · exact h.value_first run hrun x hx
    · obtain rfl := List.mem_singleton.1 hrun
      obtain rfl : c = x := by simpa using hx
      rw [values_singleton, value, h.node_eq c (h.not_mem_heads ht), value]
  · rw [hheads]
    exact fun x hx => h.node_eq x fun hmem => hx (List.mem_append_left _ hmem)

/-- A text that comes after a run of texts is taken out, and the first one of the run gets its
value. -/
theorem step_of_texts (ht : t.IsForest) (h : MergedRow t p before (c :: after) u)
    {y : NodeId} {rest : List NodeId} (hcut : t.cut before = pieces ++ [y :: rest])
    (texts : ∀ x ∈ y :: rest, t.isText x = true) (hc : t.isText c = true) :
    MergedRow t p (before ++ [c]) after
      (Arena.detach (u.setValue y (u.value y ++ u.value c)) c) := by
  have hu := h.trims.isForest ht
  have hcut' := cut_concat_of_texts hcut texts hc
  have hheads : heads (t.cut before) = heads pieces ++ [y] := by
    rw [hcut, heads_append]
    rfl
  have hheads' : heads (t.cut (before ++ [c])) = heads (t.cut before) := by
    rw [hcut', hheads, heads_append]
    rfl
  have hc_mem : c ∈ u.children p := by
    rw [h.children]
    simp
  have hy : u.label y = .text := by
    rw [h.trims.label_eq, ← isText_iff]
    exact texts y List.mem_cons_self
  -- the first nodes of the runs are different, since they stand in one row
  have hfirsts : y ∉ heads pieces := by
    have hnodup := hu.nodup p
    rw [h.children, hheads, List.nodup_append', List.nodup_append'] at hnodup
    exact fun hmem => hnodup.1.2.2 hmem List.mem_cons_self
  constructor
  · exact h.trims.trans ((trims_setValue u y _).trans (trims_detach _ c))
  · rw [children_merge hu, hheads', h.children, Arena.splice_middle (h.children ▸ hu.nodup p),
      List.nil_append]
  · intro q hq
    rw [children_merge hu, Arena.splice_eq_self, h.children_off q hq]
    exact fun hmem => hq (hu.parent_unique hmem hc_mem)
  · rw [hcut']
    intro run hrun x hx
    rcases List.mem_append.1 hrun with hold | hnew
    · have hxy : x ≠ y := by
        rintro rfl
        exact hfirsts (mem_heads.2 ⟨run, hold, hx⟩)
      rw [value, node_merge_of_ne hu hxy]
      exact h.value_first run (hcut ▸ List.mem_append_left _ hold) x hx
    · obtain rfl := List.mem_singleton.1 hnew
      obtain rfl : y = x := by simpa using hx
      have hfirst : u.value y = t.values (y :: rest) :=
        h.value_first _ (hcut ▸ List.mem_concat_self) y rfl
      have hvalue : u.value c = t.value c := congrArg Node.value (h.node_eq c (h.not_mem_heads ht))
      rw [value, node_detach, node_setValue_self hy, hfirst, hvalue, values_append,
        values_singleton]
  · rw [hheads']
    intro x hx
    have hxy : x ≠ y := by
      rintro rfl
      exact hx (by simp [hheads])
    rw [node_merge_of_ne hu hxy, h.node_eq x hx]

/-- **One turn**: whatever node it is, it has its place in the runs. There are three cases: the
first child, a text that goes on a run, and a node that begins a piece. -/
theorem step (ht : t.IsForest) (h : MergedRow t p before (c :: after) u) :
    MergedRow t p (before ++ [c]) after (u.mergeIntoPrevious c) := by
  have hprevious : u.previousSibling c = (heads (t.cut before)).getLast? :=
    ((h.trims.isForest ht).siblings h.children).1
  rcases List.eq_nil_or_concat (t.cut before) with hcut | ⟨pieces, last, hcut⟩
  -- the first child has nothing before it
  · obtain rfl : before = [] := List.splitBy_eq_nil.1 hcut
    rw [mergeIntoPrevious_eq_self (by simp [hprevious, hcut, heads])]
    exact h.step_of_apart ht (by simp)
  rw [List.concat_eq_append] at hcut
  have hlast : last ∈ t.cut before := hcut ▸ List.mem_concat_self
  obtain ⟨y, rest, rfl⟩ := List.exists_cons_of_ne_nil (List.ne_nil_of_mem_splitBy hlast)
  obtain ⟨hend, hfirst⟩ := getLast?_of_cut hcut
  rw [hfirst, List.head?_cons] at hprevious
  by_cases htexts : t.isText y = true ∧ t.isText c = true
  -- the text before it is the first of a run, and the run goes on
  · obtain ⟨hy, hc⟩ := htexts
    rw [mergeIntoPrevious_of_text (by rwa [h.trims.label_eq, ← isText_iff]) hprevious
      (by rwa [h.trims.label_eq, ← isText_iff])]
    exact h.step_of_texts ht hcut (texts_of_mem_cut hlast List.mem_cons_self hy) hc
  -- one of the two is no text, so a new piece begins
  · have stays : u.label c = .text → ∀ z, u.previousSibling c = some z → u.label z ≠ .text := by
      intro hc z hz hlabel
      obtain rfl : y = z := Option.some.inj (hprevious.symm.trans hz)
      rw [h.trims.label_eq, ← isText_iff] at hc hlabel
      exact htexts ⟨hlabel, hc⟩
    rw [mergeIntoPrevious_eq_self stays]
    refine h.step_of_apart ht ?_
    rintro x hx ⟨hxtext, hc⟩
    rw [hend] at hx
    exact htexts ⟨texts_of_mem_cut hlast (List.mem_of_getLast? hx) hxtext y List.mem_cons_self, hc⟩

/-- By induction on the children whose turn is to come. -/
theorem foldl (ht : t.IsForest) : ∀ {after before : List NodeId} {u : Tree},
    MergedRow t p before after u →
      MergedRow t p (before ++ after) [] (after.foldl mergeIntoPrevious u) := by
  intro after
  induction after with
  | nil => simp
  | cons c after ih =>
    intro before u h
    have := ih (h.step ht)
    rwa [List.append_assoc, List.singleton_append] at this

end MergedRow

/-! ## One node, and all that is below it

A pass over a node changes nothing outside of what is below it. `SameOn` is used to carry over
what was said of one child while its siblings are dealt with. -/

/-- At the places in `S`, the nodes of `t` and `u` are the same and have the same children. -/
def SameOn (S : NodeId → Prop) (t u : Tree) : Prop :=
  ∀ x, S x → u.node x = t.node x ∧ u.children x = t.children x

/-- What is the same outside of some places is the same at all places outside. -/
theorem SameOff.sameOn {S S' : NodeId → Prop} (h : SameOff S t u) (apart : ∀ x, S' x → ¬ S x) :
    SameOn S' t u :=
  fun x hx => h x (apart x hx)

theorem SameOn.trans {S : NodeId → Prop} (h : SameOn S t u) (h' : SameOn S u v) : SameOn S t v :=
  fun x hx => ⟨(h' x hx).1.trans (h x hx).1, (h' x hx).2.trans (h x hx).2⟩

/-- In `u`, the children of `p` are the first nodes of its runs, with the values of the runs. -/
structure MergedAt (t u : Tree) (p : NodeId) : Prop where
  children_eq : u.children p = heads (t.runs p)
  value_first : ∀ run ∈ t.runs p, ∀ x ∈ run.head?, u.value x = t.values run
  node_eq : ∀ x ∈ t.children p, x ∉ heads (t.runs p) → u.node x = t.node x

/-- This is so at `c` and everywhere below it. -/
structure MergedBelow (t u : Tree) (c : NodeId) : Prop where
  node_eq : u.node c = t.node c
  at_below : ∀ p, t.Within c p → MergedAt t u p

/-- Only the children of a node are looked at. -/
theorem MergedAt.congr (h : MergedAt t u p) (children : v.children p = u.children p)
    (nodes : ∀ x ∈ t.children p, v.node x = u.node x) : MergedAt t v p := by
  constructor
  · rw [children, h.children_eq]
  · intro run hrun x hx
    rw [← h.value_first run hrun x hx]
    exact congrArg Node.value (nodes x (runs_subset hrun (List.mem_of_head? hx)))
  · intro x hx hfirst
    rw [nodes x hx, h.node_eq x hx hfirst]

/-- Of the document only what is at or below the node matters. -/
theorem MergedBelow.congr (ht : t.IsForest) (h : MergedBelow t u c)
    (same : SameOn (t.Within c) u v) : MergedBelow t v c := by
  refine ⟨(same c (t.within_self c)).1.trans h.node_eq, fun p hp => ?_⟩
  refine (h.at_below p hp).congr (same p hp).2 fun x hx => ?_
  exact (same x (hp.trans (ht.within_of_mem hx))).1

/-- Nothing is to be done below a node without children. -/
theorem mergedBelow_of_children_eq_nil (ht : t.IsForest) (trims : Trims t u)
    (hnode : u.node c = t.node c) (hc : t.children c = []) : MergedBelow t u c := by
  refine ⟨hnode, fun p hp => ?_⟩
  obtain rfl : p = c := by
    rcases hp with rfl | hp
    · rfl
    · obtain ⟨d, hd, -⟩ := hp.cases_child
      rw [← ht.mem_iff, hc] at hd
      cases hd
  have hruns : t.runs p = [] := by
    rw [runs, hc]
    rfl
  have hgone : u.children p = [] := List.sublist_nil.1 (hc ▸ trims.children_sublist ht p)
  constructor
  · rw [hgone, hruns]
    rfl
  · simp [hruns]
  · simp [hc]

/-! ## Comments are taken out

In the first half of a pass, the pass itself is run on each element among the children. This is
where the induction on the height of the node comes in. -/

/-- What the first half of a pass over the children of `p` has done with those in `done`. -/
structure Stripping (t : Tree) (p : NodeId) (done rest : List NodeId) (u : Tree) : Prop where
  trims : Trims t u
  node_eq : u.node p = t.node p
  children : u.children p = (done.filter fun x => t.label x ≠ .comment) ++ rest
  below_done : ∀ c ∈ done, MergedBelow t u c
  below_rest : ∀ c ∈ rest, SameOn (t.Within c) t u

section Strip

variable {fuel : Nat} {done rest : List NodeId}
variable (ih : ∀ (u : Tree) (c : NodeId), Trims t u → SameOn (t.Within c) t u →
  t.HeightLe fuel c → t.LeavesBare c → MergedBelow t (stripComments fuel u c) c)
include ih

/-- What becomes of the child whose turn it is, and where something changes. -/
theorem stripChild_spec (ht : t.IsForest) (trims : Trims t u) (same : SameOn (t.Within c) t u)
    (hc : c ∈ t.children p) (hcu : c ∈ u.children p) (height : t.HeightLe fuel c)
    (bare : t.LeavesBare p) :
    MergedBelow t (stripChild fuel u c) c ∧
      SameOff (fun x => x = p ∨ t.Within c x) u (stripChild fuel u c) ∧
      node (stripChild fuel u c) p = u.node p ∧
      (stripChild fuel u c).children p =
        if t.label c = .comment then Arena.splice c [] (u.children p) else u.children p := by
  have hu := trims.isForest ht
  have hnode : u.node c = t.node c := (same c (t.within_self c)).1
  have apart : ¬ t.Within c p := fun hp => ht.ne_of_within hc hp rfl
  -- the root and the elements: the pass goes on below them, and the children of `p` are the same
  have inner (hlabel : (t.label c).isLeaf = false) :
      MergedBelow t (stripComments fuel u c) c ∧
        SameOff (fun x => x = p ∨ t.Within c x) u (stripComments fuel u c) ∧
        node (stripComments fuel u c) p = u.node p ∧
        (stripComments fuel u c).children p = u.children p := by
    have off : SameOff (t.Within c) u (stripComments fuel u c) :=
      (makes_stripComments fuel u c hu (trims.heightLe ht height)
        (by rwa [trims.label_eq])).sameOff.mono fun x hx => hx.mono (trims.parent_eq ht)
    exact ⟨ih u c trims same height (bare.of_below (ht.below_of_mem hc)),
      off.mono fun _ => Or.inr, (off p apart).1, (off p apart).2⟩
  rcases hlabel : t.label c with _ | ⟨tag, attributes⟩ | _ | _
  · simpa [stripChild, trims.label_eq, hlabel] using inner (by rw [hlabel]; rfl)
  · simpa [stripChild, trims.label_eq, hlabel] using inner (by rw [hlabel]; rfl)
  · have hbare := bare c (ht.below_of_mem hc) (Or.inl hlabel)
    rw [stripChild, trims.label_eq, hlabel, if_neg Label.noConfusion]
    exact ⟨mergedBelow_of_children_eq_nil ht trims hnode hbare, SameOff.refl _ u, rfl, rfl⟩
  · have hbare := bare c (ht.below_of_mem hc) (Or.inr hlabel)
    rw [stripChild, trims.label_eq, hlabel, if_pos rfl]
    refine ⟨?_, (sameOff_detach hu hcu).mono fun _ => Or.inl, node_detach u c p,
      hu.children_detach c p⟩
    refine mergedBelow_of_children_eq_nil ht (trims.trans (trims_detach u c)) ?_ hbare
    rw [node_detach, hnode]

/-- **One turn**: siblings have nothing below them in common, so all that was said of the others
stays true. -/
theorem Stripping.step (ht : t.IsForest) (h : Stripping t p done (c :: rest) u)
    (hsplit : t.children p = done ++ c :: rest) (height : t.HeightLe fuel c)
    (bare : t.LeavesBare p) : Stripping t p (done ++ [c]) rest (stripChild fuel u c) := by
  have hmem : ∀ d, d ∈ done ++ c :: rest → d ∈ t.children p := fun d hd => hsplit ▸ hd
  have hnodup := ht.nodup p
  rw [hsplit, List.nodup_middle, List.nodup_cons] at hnodup
  have hc : c ∈ t.children p := hmem c (by simp)
  obtain ⟨hbelow, hoff, hnode, hchildren⟩ := stripChild_spec ih ht h.trims
    (h.below_rest c List.mem_cons_self) hc (by rw [h.children]; simp) height bare
  -- below the other children nothing changes, since they share no node with this one
  have beside : ∀ d ∈ done ++ rest, SameOn (t.Within d) u (stripChild fuel u c) := by
    intro d hd
    have hdp : d ∈ t.children p := hmem d (by simp at hd ⊢; tauto)
    refine hoff.sameOn fun x hx => ?_
    rintro (rfl | hcx)
    · exact ht.ne_of_within hdp hx rfl
    · exact ht.not_within_of_sibling hdp hc (fun heq => hnodup.1 (heq ▸ hd)) hx hcx
  constructor
  · exact h.trims.trans (trims_stripChild (trims_stripComments fuel) u c)
  · rw [hnode, h.node_eq]
  · rw [hchildren, h.children, List.filter_append]
    split
    · rename_i hlabel
      rw [Arena.splice_middle (h.children ▸ (h.trims.isForest ht).nodup p)]
      simp [hlabel]
    · rename_i hlabel
      simp [hlabel]
  · intro d hd
    rcases List.mem_append.1 hd with hd | hd
    · exact (h.below_done d hd).congr ht (beside d (List.mem_append_left _ hd))
    · obtain rfl := List.mem_singleton.1 hd
      exact hbelow
  · intro d hd
    exact (h.below_rest d (List.mem_cons_of_mem c hd)).trans
      (beside d (List.mem_append_right _ hd))

/-- By induction on the children whose turn is to come. -/
theorem Stripping.foldl (ht : t.IsForest) (bare : t.LeavesBare p)
    (height : ∀ c ∈ t.children p, t.HeightLe fuel c) : ∀ {rest done : List NodeId} {u : Tree},
      Stripping t p done rest u → t.children p = done ++ rest →
        Stripping t p (t.children p) [] (rest.foldl (stripChild fuel) u) := by
  intro rest
  induction rest with
  | nil =>
    intro done u h hsplit
    rwa [hsplit, List.append_nil]
  | cons c rest ihrest =>
    intro done u h hsplit
    have hc : c ∈ t.children p := by
      rw [hsplit]
      simp
    exact ihrest (h.step ih ht hsplit (height c hc) bare) (by simpa using hsplit)

end Strip

/-! ## The whole pass

What holds after the first half is what the second half starts from, and its result is merged at
the node and below each of its children. -/

/-- A pass changes no kind of a node, and it is the kinds that decide where a row is cut. -/
theorem Trims.cut_eq (h : Trims t u) (ids : List NodeId) : u.cut ids = t.cut ids := by
  have same : u.isText = t.isText := funext fun x => by rw [isText, isText, h.label_eq]
  rw [cut, cut, same]

/-- The two halves of a pass, one after the other. -/
theorem Stripping.mergedBelow (ht : t.IsForest) (h : Stripping t p (t.children p) [] u)
    (joined : MergedRow u p (u.children p) [] v) : MergedBelow t v p := by
  have hu := h.trims.isForest ht
  have hruns : u.cut (u.children p) = t.runs p := by
    rw [h.children, List.append_nil, h.trims.cut_eq, runs]
  have hfirst : ∀ x ∈ heads (t.runs p), x ∈ u.children p := by
    rw [← hruns]
    exact fun x hx => heads_cut_subset u _ hx
  have hnode : ∀ x, x ∉ heads (t.runs p) → v.node x = u.node x := by
    rw [← hruns]
    exact joined.node_eq
  have hchild : ∀ x ∈ t.children p, u.node x = t.node x := fun x hx => (h.below_done x hx).node_eq
  refine ⟨?_, fun q hq => ?_⟩
  · rw [hnode p fun hp => hu.ne_of_mem (hfirst p hp) rfl, h.node_eq]
  obtain rfl | ⟨d, hd, hdq⟩ : q = p ∨ ∃ d ∈ t.children p, t.Within d q := by
    refine hq.imp_right fun hq => ?_
    obtain ⟨d, hd, hdq⟩ := hq.cases_child
    exact ⟨d, ht.mem_iff.2 hd, hdq.imp_left Eq.symm⟩
  · constructor
    · rw [joined.children, hruns, List.append_nil]
    · intro run hrun x hx
      rw [joined.value_first run (hruns ▸ hrun) x hx]
      exact values_congr fun y hy => hchild y (runs_subset hrun hy)
    · intro x hx hgone
      rw [hnode x hgone, hchild x hx]
  · -- below a child nothing changes any more
    have hne : q ≠ p := ht.ne_of_within hd hdq
    refine ((h.below_done d hd).at_below q hdq).congr (joined.children_off q hne) fun x hx => ?_
    refine hnode x fun hmem => hne ?_
    exact ht.parent_unique hx ((h.trims.children_sublist ht p).subset (hfirst x hmem))

/-- By induction on the fuel: the pass below a node begins in the document that earlier passes
beside it have left. -/
theorem mergedBelow_stripComments (ht : t.IsForest) (fuel : Nat) :
    ∀ (u : Tree) (p : NodeId), Trims t u → SameOn (t.Within p) t u → t.HeightLe fuel p →
      t.LeavesBare p → MergedBelow t (stripComments fuel u p) p := by
  induction fuel with
  | zero => exact fun _ _ _ _ hheight => hheight.elim
  | succ fuel ih =>
    intro u p trims same height bare
    obtain ⟨hnode, hchildren⟩ := same p (t.within_self p)
    have start : Stripping t p [] (t.children p) u :=
      ⟨trims, hnode, hchildren, by simp,
        fun c hc x hx => same x ((ht.within_of_mem hc).trans hx)⟩
    have stripped := start.foldl ih ht bare height rfl
    rw [stripComments_succ, hchildren]
    refine stripped.mergedBelow ht ?_
    simpa using (MergedRow.start _ p).foldl (stripped.trims.isForest ht)

/-! ## No text is lost

The result of the pass is said once more without the pass: which nodes have lost their place,
which values have changed, and that the text of no element has. -/

/-- A child keeps its value, if it is not the first one of a run of texts. -/
theorem MergedAt.value_eq (h : MergedAt t u p) (hx : x ∈ t.children p)
    (hrun : ∀ rest, ¬ t.IsTextRun p (x :: rest)) : u.value x = t.value x := by
  by_cases hfirst : x ∈ heads (t.runs p)
  · obtain ⟨run, hmem, hhead⟩ := mem_heads.1 hfirst
    rw [h.value_first run hmem x hhead]
    obtain ⟨rest, rfl⟩ := List.head?_eq_some_iff.1 hhead
    rcases cases_of_mem_cut hmem with ⟨y, heq, -⟩ | ⟨-, texts⟩
    · obtain ⟨rfl, rfl⟩ := List.cons.inj heq
      exact values_singleton t x
    · have htext := isText_iff.1 (texts x List.mem_cons_self)
      exact absurd (isTextRun_iff.2 ⟨hmem, htext⟩) (hrun rest)
  · exact congrArg Node.value (h.node_eq x hx hfirst)

section Whole

variable (ht : t.IsForest) (hu : u.IsForest) (merged : MergedBelow t u root)
  (off : SameOff (t.Within root) t u)
include ht hu merged off

/-- Those nodes have lost their place that go, and no others. -/
theorem parent_eq_some_iff_stays :
    u.parent x = some p ↔ t.parent x = some p ∧ ¬ t.Goes x := by
  rw [← hu.mem_iff, ← ht.mem_iff]
  by_cases hp : t.Within root p
  · rw [(merged.at_below p hp).children_eq]
    constructor
    · intro hx
      have hmem := ((mem_heads_runs_iff ht).1 hx).1
      exact ⟨hmem, fun hgoes => (goes_iff ht hp hmem).1 hgoes hx⟩
    · rintro ⟨hmem, hstays⟩
      exact not_not.1 fun hx => hstays ((goes_iff ht hp hmem).2 hx)
  · rw [(off p hp).2]
    refine ⟨fun hx => ⟨hx, fun hgoes => hp ?_⟩, And.left⟩
    obtain ⟨q, hq, hrq⟩ := hgoes.1.cases_parent
    obtain rfl := Option.some.inj ((ht.mem_iff.1 hx).symm.trans hq)
    exact hrq

/-- **The text of every element is kept**, whether a run that is merged stands right in it or
further down. The first text of a run has the values of all, and the others of the run are gone. -/
theorem gathered_children_of_merged (labels : ∀ x, u.label x = t.label x) (p : NodeId) :
    u.gathered (u.children p) = t.gathered (t.children p) := by
  induction p using ht.induction_below with
  | step p ih =>
    by_cases hp : t.Within root p
    · rw [(merged.at_below p hp).children_eq, ← gathered_filter_ne_comment t ht (t.children p),
        ← flatten_cut t (List.filter _ _)]
      refine gathered_heads fun run hrun => ?_
      exact gathered_run ht hu labels hrun ((merged.at_below p hp).value_first run hrun) fun x hx =>
        ih x (runs_subset hrun hx)
    · rw [(off p hp).2]
      refine gathered_congr fun x hx => gathered_singleton_congr ht hu ?_ (ih x hx)
      -- a child of a node outside of the document is outside, or the root itself
      by_cases hxr : t.Within root x
      · rcases hxr with rfl | hxr
        · exact merged.node_eq
        · obtain ⟨q, hq, hrq⟩ := hxr.cases_parent
          obtain rfl := Option.some.inj ((ht.mem_iff.1 hx).symm.trans hq)
          exact absurd hrq hp
      · exact (off x hxr).1

end Whole

/-- What `u` has of `t`: all nodes but those that go, in their order, with the values of its whole
run at the first text of each run, and with the text and the elements in each element as they
were. -/
structure Stripped (t u : Tree) : Prop where
  wellFormed : u.WellFormed
  label_eq : ∀ x, u.label x = t.label x
  parent_of_goes : ∀ x, t.Goes x → u.parent x = none
  parent_of_stays : ∀ x, ¬ t.Goes x → u.parent x = t.parent x
  children_sublist : ∀ p, (u.children p).Sublist (t.children p)
  value_first : ∀ p, t.Within root p → ∀ first rest, t.IsTextRun p (first :: rest) →
    u.value first = t.values (first :: rest)
  value_eq : ∀ x, (∀ p, t.Within root p → ∀ rest, ¬ t.IsTextRun p (x :: rest)) →
    u.value x = t.value x
  textContent_eq : ∀ e, (t.label e).isLeaf = false → u.textContent e = t.textContent e
  elementChildren_eq : ∀ e, u.elementChildren e = t.elementChildren e

/-- **No comment is left and nothing is lost**: the pass takes out the comments in the document and
of each run of texts all but the first one, which gets the values of them all. Nothing else
changes, and every element has the text and the elements in it that it had. -/
theorem stripped_stripComments (h : t.WellFormed) (bare : t.LeavesBare root) :
    Stripped t (stripComments t.size t root) := by
  have ht := h.forest
  have trims := trims_stripComments t.size t root
  have hu := trims.isForest ht
  have height := ht.heightLe_size h.root_lt
  have hroot : t.label root = .document := (h.label_eq_document h.root_lt).2 rfl
  -- below the root all rows are merged, and elsewhere nothing changes
  have merged : MergedBelow t (stripComments t.size t root) root :=
    mergedBelow_stripComments ht t.size t root (Trims.refl t) (fun _ _ => ⟨rfl, rfl⟩) height bare
  have off := (makes_stripComments t.size t root ht height (by rw [hroot]; rfl)).sameOff
  -- a node keeps its parent unless it goes
  have parents : ∀ {x p}, (stripComments t.size t root).parent x = some p ↔
      t.parent x = some p ∧ ¬ t.Goes x := parent_eq_some_iff_stays ht hu merged off
  constructor
  · exact trims.wellFormed h
  · exact trims.label_eq
  · exact fun x hgoes => Option.eq_none_iff_forall_ne_some.2 fun p hp => (parents.1 hp).2 hgoes
  · exact fun x hstays => Option.ext fun p => parents.trans (and_iff_left hstays)
  · exact trims.children_sublist ht
  · intro p hp first rest hrun
    exact (merged.at_below p hp).value_first _ (isTextRun_iff.1 hrun).1 first rfl
  · intro x hx
    by_cases hin : t.Within root x
    · rcases hin with rfl | hin
      · exact congrArg Node.value merged.node_eq
      · obtain ⟨p, hp, hrp⟩ := hin.cases_parent
        exact (merged.at_below p hrp).value_eq (ht.mem_iff.2 hp) (hx p hrp)
    · exact congrArg Node.value (off x hin).1
  · intro e he
    rw [textContent_eq_gathered ht he, textContent_eq_gathered hu (by rwa [trims.label_eq])]
    exact gathered_children_of_merged ht hu merged off trims.label_eq e
  · intro e
    have same : isElement (stripComments t.size t root) = t.isElement :=
      funext fun x => by rw [isElement, isElement, trims.label_eq]
    by_cases hin : t.Within root e
    · rw [elementChildren, (merged.at_below e hin).children_eq, same, filter_isElement_runs]
    · rw [elementChildren, (off e hin).2, same, elementChildren]

/-- A sentence that a comment stands in, with an element after it and one more text. -/
def annotated : Tree :=
  Tree.empty.run
    [.createElement "p" [], .append root ⟨1⟩, .createText "a ", .append ⟨1⟩ ⟨2⟩,
     .createComment "or the?", .append ⟨1⟩ ⟨3⟩, .createText "word", .append ⟨1⟩ ⟨4⟩,
     .createElement "br" [], .append ⟨1⟩ ⟨5⟩, .createText "and more", .append ⟨1⟩ ⟨6⟩]

theorem stripped_stripComments_annotated :
    annotated.WellFormed ∧ annotated.LeavesBare root ∧ annotated.IsTextRun ⟨1⟩ [⟨2⟩, ⟨4⟩] ∧
      Stripped annotated (stripComments annotated.size annotated root) := by
  have h : annotated.WellFormed :=
    WellFormed.run _ wellFormed_empty (allAllowed_of_areAllowed (by decide +kernel))
  have bare : annotated.LeavesBare root := leavesBare_of_forall_lt _ (by decide +kernel)
  refine ⟨h, bare, ⟨[], [⟨5⟩, ⟨6⟩], ?_⟩, stripped_stripComments h bare⟩
  decide +kernel

end Tagdown.Tree
