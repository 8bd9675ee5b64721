import Tagdown.Proofs.Conversion.Leavings
import Tagdown.Proofs.Conversion.Unwrapping

/-!
# Code within a line

Code is put between backquotes unless it is all that a `pre` has in it. This is asked when the code
is visited, and then the siblings before it stand as they did, while those after it were visited
and do not: what there is to see of them is what they have left.

Almost every node leaves something, be it an empty text. A node leaves nothing only if it is a void
element without a rule and all that is in it leaves nothing (`Tree.Vanishes`). So code is taken for
a block just if it is the first child of a `pre` and all children after it vanish
(`Converter.inlineCode_iff`), and the document decides this, not how far the conversion has come.

A void element after the code is overlooked in this way, and one before it is not. The code of
`fencedBreak` is not all that its `pre` has in it, and still it is no inline code.
-/

namespace Tagdown

namespace Tree

/-- Nothing is left of the node when unmatched elements are unwrapped: it is a void element that no
bundled rule is for, and nothing is left of all that is in it. -/
inductive Vanishes (N : Tree) : NodeId → Prop where
  | void {x : NodeId} (element : N.isElement x = true)
    (void : Options.isVoid {} (N.tagName x) = true)
    (unmatched : RuleSet.standard.find? ⟨N, x⟩ {} = none)
    (inside : ∀ y ∈ N.children x, N.Vanishes y) : N.Vanishes x

/-- The node is all that a `pre` has in it. -/
def SoleChildOfPre (N : Tree) (e : NodeId) : Prop :=
  ∃ p, N.tagName p = "pre" ∧ N.children p = [e]

/-- The node is the first child of a `pre`, and nothing is left of those after it. -/
def LeftAloneInPre (N : Tree) (e : NodeId) : Prop :=
  ∃ p after, N.tagName p = "pre" ∧ N.children p = e :: after ∧ ∀ y ∈ after, N.Vanishes y

variable {N : Tree} {e x : NodeId}

theorem SoleChildOfPre.leftAlone (h : N.SoleChildOfPre e) : N.LeftAloneInPre e := by
  obtain ⟨p, htag, hchildren⟩ := h
  exact ⟨p, [], htag, hchildren, List.forall_mem_nil _⟩

/-- Where no sibling vanishes, what is left alone is alone. -/
theorem LeftAloneInPre.soleChild (h : N.IsForest) (alone : N.LeftAloneInPre e)
    (lasting : ∀ y, N.parent y = N.parent e → ¬ N.Vanishes y) : N.SoleChildOfPre e := by
  obtain ⟨p, after, htag, hchildren, vanish⟩ := alone
  cases after with
  | nil => exact ⟨p, htag, hchildren⟩
  | cons y after =>
    have he : N.parent e = some p := h.mem_iff.1 (by rw [hchildren]; simp)
    have hy : N.parent y = some p := h.mem_iff.1 (by rw [hchildren]; simp)
    exact absurd (vanish y List.mem_cons_self) (lasting y (hy.trans he.symm))

end Tree

namespace Converter

open Tagdown.Tree (root)

variable {N t u : Tree} {left : NodeId → List String} {x e : NodeId} {n : NodeRef}

/-! ## What leaves nothing

Of a text its value is left and of a replaced element a new text, be it empty. So there is
nothing left only of an element that was unwrapped, when nothing was left in it. Such an element
is blank and would have been replaced if it were not void. -/

/-- No rule is for an element that vanishes, whatever has become of the document around it. -/
theorem replacement?_of_vanishes (h : N.Vanishes x) (hlabel : n.label = N.label x) :
    standard.replacement? n = .ok none := by
  cases h with
  | void element void unmatched inside =>
    have htag : n.tagName = N.tagName x := congrArg Label.name hlabel
    have hcode : n.tagName ≠ "code" := by
      intro hcode
      rw [← htag, hcode] at void
      exact absurd void (by decide)
    refine replacement?_of_asked_none (Or.inl (htag.symm ▸ void)) ?_
    rw [← unmatched]
    exact find?_standard_congr (m := ⟨N, x⟩) hlabel hcode {}

/-- An element that is unwrapped with nothing to be left of it is void and without a rule. -/
theorem void_of_replacement?_eq_none (sees : Sees N left x n)
    (h : standard.replacement? n = .ok none) (hempty : (N.children x).flatMap left = []) :
    Options.isVoid {} (N.tagName x) = true ∧ RuleSet.standard.find? ⟨N, x⟩ {} = none := by
  have htag : n.tagName = N.tagName x := congrArg Label.name sees.label_eq
  obtain ⟨hasked, hnone⟩ := replacement?_eq_none h
  have void : Options.isVoid {} (N.tagName x) = true := by
    rw [← htag]
    refine hasked.resolve_right ?_
    rw [sees.innerHtml_eq, hempty, String.join_nil, Node.writeText_empty]
    decide
  refine ⟨void, ?_⟩
  have hcode : n.tagName ≠ "code" := by
    intro hcode
    rw [← htag, hcode] at void
    exact absurd void (by decide)
  rw [← hnone]
  exact (find?_standard_congr (m := ⟨N, x⟩) sees.label_eq hcode {}).symm

/-- **Nothing is left of a node just if it vanishes.** By induction from below, since an element
that is unwrapped leaves what its children leave. -/
theorem left_eq_nil_iff (h : N.Clean) (x : NodeId) : N.Below root x →
    (∀ y, N.Within x y → N.label y = .text → left y = [N.value y]) →
    (∀ y, N.Within x y → N.isElement y = true → standard.LeftBy N left y) →
    (left x = [] ↔ N.Vanishes x) := by
  induction x using h.wellFormed.forest.induction_below with
  | step x ih =>
    intro hx texts elements
    rcases h.cases_below hx with helement | ⟨htext, -⟩
    -- by induction nothing is left of the children just if all of them vanish
    · have inside : (N.children x).flatMap left = [] ↔ ∀ y ∈ N.children x, N.Vanishes y := by
        rw [List.flatMap_eq_nil_iff]
        refine forall₂_congr fun y hy => ?_
        have within {z : NodeId} : N.Within y z → N.Within x z :=
          (h.wellFormed.forest.within_of_mem hy).trans
        exact ih y hy (hx.trans (h.wellFormed.forest.below_of_mem hy))
          (fun z hz => texts z (within hz)) fun z hz => elements z (within hz)
      cases elements x (N.within_self x) helement with
      -- a text has come into its place, and this is something, even if it is empty
      | replaced sees hreplacement left_eq =>
        refine ⟨fun hnil => ?_, fun vanishes => ?_⟩
        · rw [left_eq] at hnil
          cases hnil
        · rw [replacement?_of_vanishes vanishes sees.label_eq] at hreplacement
          cases hreplacement
      -- only what is left of its children is left, and a rule was not asked: it was blank
      | unwrapped sees hreplacement left_eq =>
        rw [left_eq]
        refine ⟨fun hnil => ?_, fun vanishes => ?_⟩
        · obtain ⟨void, unmatched⟩ := void_of_replacement?_eq_none sees hreplacement hnil
          exact .void helement void unmatched (inside.1 hnil)
        · cases vanishes with
          | void _ _ _ vanish => exact inside.2 vanish
    -- a text is still there
    · refine ⟨fun hnil => ?_, fun vanishes => ?_⟩
      · rw [texts x (N.within_self x) htext] at hnil
        cases hnil
      · cases vanishes with
        | void element =>
          rw [Tree.isElement, htext] at element
          cases element

/-! ## At the visit of the code

The rule looks for a sibling before the code and for one after it. The former are not visited
yet, and of the latter those that vanish are gone. -/

section Visit

variable {done rest : List NodeId} {rep : NodeId → List NodeId}
variable (h : N.Clean) (split : (N.levelOrder root).reverse = done ++ e :: rest)
  (r : Run standard N done rep u)
include h split r

/-- What the siblings after an element have left when it is visited. -/
theorem Run.leavings_eq_nil_iff {p y : NodeId} {l after : List NodeId}
    (hchildren : N.children p = l ++ e :: after) (hy : y ∈ after) :
    leavings u rep y = [] ↔ N.Vanishes y := by
  have hforest := h.wellFormed.forest
  have pr := r.progress hforest split
  have hp : N.Within root p := by
    obtain ⟨q, hq, hroot⟩ := (Progress.below_root hforest split).cases_parent
    obtain rfl : p = q := Option.some.inj ((hforest.parent_of_split hchildren).symm.trans hq)
    exact hroot
  have hbelow {z : NodeId} (hz : N.Within y z) : N.Below root z := by
    have hpy : N.Below p y := hforest.below_of_mem (by rw [hchildren]; simp [hy])
    have hroot : N.Below root y := hp.elim (fun heq => heq ▸ hpy) fun hp => hp.trans hpy
    exact hz.elim (fun heq => heq ▸ hroot) hroot.trans
  refine left_eq_nil_iff h y (hbelow (N.within_self y)) (fun z hz htext => ?_)
    fun z hz helement => ?_
  · exact pr.leavings_of_text h split (hbelow hz) htext
  · refine r.leftBy h rfl split z ?_
    exact Tree.mem_done_of_following hforest split hchildren hy hz
      (h.mem_levelOrder.2 ⟨hbelow hz, helement⟩)

theorem Run.isCodeBlock_iff : Rule.isCodeBlock ⟨u, e⟩ = true ↔ N.LeftAloneInPre e := by
  have hforest := h.wellFormed.forest
  have sees := r.sees h rfl split
  obtain ⟨p, hp, -⟩ := (Progress.below_root hforest split).cases_parent
  obtain ⟨l, after, hchildren⟩ := List.append_of_mem (hforest.mem_iff.2 hp)
  obtain ⟨hprevious, hnext⟩ := sees.siblings_eq hchildren
  have hparent := sees.parent_any hp "pre"
  rw [Rule.isCodeBlock, hparent, hprevious, hnext, Bool.and_eq_true, Bool.and_eq_true, beq_iff_eq,
    List.isEmpty_iff, List.isEmpty_iff, List.flatMap_eq_nil_iff, and_assoc]
  have vanish : (∀ y ∈ after, leavings u rep y = []) ↔ ∀ y ∈ after, N.Vanishes y :=
    forall₂_congr fun y hy => r.leavings_eq_nil_iff h split hchildren hy
  rw [vanish]
  constructor
  · rintro ⟨htag, rfl, hafter⟩
    exact ⟨p, after, htag, hchildren, hafter⟩
  · rintro ⟨q, after', htag, hchildren', hafter⟩
    have hq : N.parent e = some q := by
      refine hforest.mem_iff.1 ?_
      rw [hchildren']
      exact List.mem_cons_self
    obtain rfl : p = q := Option.some.inj (hp.symm.trans hq)
    have hnodup := hforest.nodup p
    rw [hchildren'] at hchildren
    rw [hchildren'] at hnodup
    -- the code stands in its row only once
    obtain rfl : l = [] := by
      cases l with
      | nil => rfl
      | cons d l =>
        obtain ⟨rfl, rfl⟩ := List.cons.inj hchildren
        exact absurd (by simp) (List.nodup_cons.1 hnodup).1
    exact ⟨htag, rfl, (List.cons.inj hchildren).2 ▸ hafter⟩

end Visit

/-- **The document decides what is inline code.** Code that is not blank is put between backquotes
unless it is the first child of a `pre` and all children after it vanish, and then no rule is for
it. Where no sibling of it vanishes, this is to say that it is not all that a `pre` has in it. -/
theorem inlineCode_iff {done rest : List NodeId} (h : t.WellFormed) (bare : t.LeavesBare root)
    (r : standard.Reaches t done e rest u) (hcode : u.tagName e = "code")
    (hfull : Text.isBlank (u.innerHtml e).toList = false) :
    (RuleSet.standard.find? ⟨u, e⟩ {} = some ("inline_code", Rule.inlineCode) ↔
      ¬ (t.normalize {}).LeftAloneInPre e) ∧
    (¬ (t.normalize {}).LeftAloneInPre e → standard.replacement? ⟨u, e⟩ =
      .ok (some ("`" ++ decodeEntities (u.innerHtml e) ++ "`"))) ∧
    ((t.normalize {}).LeftAloneInPre e →
      RuleSet.standard.find? ⟨u, e⟩ {} = none ∧ standard.replacement? ⟨u, e⟩ = .ok none) ∧
    ((∀ y, (t.normalize {}).parent y = (t.normalize {}).parent e → ¬ (t.normalize {}).Vanishes y) →
      ((t.normalize {}).LeftAloneInPre e ↔ (t.normalize {}).SoleChildOfPre e)) := by
  have clean := Tree.clean_normalize h bare {}
  obtain ⟨rep, run, -⟩ := r.exists_run h
  -- what the rule sees in the half-rewritten tree, said of the tree before the visits
  have block : Rule.isCodeBlock ⟨u, e⟩ = true ↔ (t.normalize {}).LeftAloneInPre e :=
    run.isCodeBlock_iff clean r.split
  have find := RuleSet.standard_find?_of_code (n := ⟨u, e⟩) hcode {}
  have hasked : standard.IsAsked ⟨u, e⟩ := Or.inr hfull
  refine ⟨?_, fun hnot => ?_, fun alone => ?_, fun lasting => ?_⟩
  · rw [find, ← block]
    cases Rule.isCodeBlock ⟨u, e⟩ <;> simp
  · rw [if_neg (mt block.1 hnot)] at find
    exact replacement?_of_asked hasked find
  · rw [if_pos (block.2 alone)] at find
    exact ⟨find, replacement?_of_asked_none hasked find⟩
  · exact ⟨fun alone => alone.soleChild clean.wellFormed.forest lasting, fun sole => sole.leftAlone⟩

/-- Code in a `pre`, and a blank emphasis after it, which leaves an empty text. -/
def fencedPair : Tree :=
  Tree.empty.run
    [.createElement "pre" [], .append root ⟨1⟩, .createElement "code" [], .append ⟨1⟩ ⟨2⟩,
     .createText "x < y", .append ⟨2⟩ ⟨3⟩, .createElement "em" [], .append ⟨1⟩ ⟨4⟩]

theorem inlineCode_iff_fencedPair :
    fencedPair.WellFormed ∧ fencedPair.LeavesBare root ∧ ∃ u,
      standard.Reaches fencedPair [⟨4⟩] ⟨2⟩ [⟨1⟩] u ∧
      RuleSet.standard.find? ⟨u, ⟨2⟩⟩ {} = some ("inline_code", Rule.inlineCode) ∧
      standard.replacement? ⟨u, ⟨2⟩⟩ = .ok (some "`x < y`") := by
  have h : fencedPair.WellFormed := Tree.WellFormed.run _ Tree.wellFormed_empty
    (Tree.allAllowed_of_areAllowed (by decide +kernel))
  have bare : fencedPair.LeavesBare root := Tree.leavesBare_of_forall_lt _ (by decide +kernel)
  have forest := (Tree.trims_normalize fencedPair {}).isForest h.forest
  have facts : (fencedPair.normalize {}).parent ⟨2⟩ = some ⟨1⟩ ∧
      (fencedPair.normalize {}).children ⟨1⟩ = [⟨2⟩, ⟨4⟩] ∧
      Options.isVoid {} ((fencedPair.normalize {}).tagName ⟨4⟩) = false ∧
      ((fencedPair.normalize {}).levelOrder root).reverse = [⟨4⟩, ⟨2⟩, ⟨1⟩] ∧
      ((standard.visitAll (fencedPair.normalize {}) [⟨4⟩]).toOption.map
        fun u => (u.tagName ⟨2⟩, u.innerHtml ⟨2⟩)) = some ("code", "x &lt; y") := by decide +kernel
  obtain ⟨hparent, hpre, hvoid, split, state⟩ := facts
  rcases hvisit : standard.visitAll (fencedPair.normalize {}) [⟨4⟩] with error | u
  · rw [hvisit] at state
    cases state
  rw [hvisit] at state
  obtain ⟨htag, hinner⟩ := Prod.mk.inj (Option.some.inj state)
  have reaches : standard.Reaches fencedPair [⟨4⟩] ⟨2⟩ [⟨1⟩] u := ⟨split, hvisit⟩
  have accompanied : ¬ (fencedPair.normalize {}).LeftAloneInPre ⟨2⟩ := by
    rintro ⟨p, after, -, hchildren, vanish⟩
    have hp : (fencedPair.normalize {}).parent ⟨2⟩ = some p :=
      forest.mem_iff.1 (by rw [hchildren]; exact List.mem_cons_self)
    obtain rfl : ⟨1⟩ = p := Option.some.inj (hparent.symm.trans hp)
    obtain ⟨-, rfl⟩ := List.cons.inj (hpre.symm.trans hchildren)
    cases vanish ⟨4⟩ List.mem_cons_self with
    | void _ void =>
      rw [hvoid] at void
      cases void
  obtain ⟨found, replaced, -⟩ := inlineCode_iff h bare reaches htag (by rw [hinner]; decide)
  refine ⟨h, bare, u, reaches, found.2 accompanied, (replaced accompanied).trans ?_⟩
  rw [hinner]
  decide +kernel

/-- Code in a `pre`, and a place for a line break after it. -/
def fencedBreak : Tree :=
  Tree.empty.run
    [.createElement "pre" [], .append root ⟨1⟩, .createElement "code" [], .append ⟨1⟩ ⟨2⟩,
     .createText "x", .append ⟨2⟩ ⟨3⟩, .createElement "wbr" [], .append ⟨1⟩ ⟨4⟩]

/-- The code is not all that the `pre` has in it, and it is no inline code. -/
theorem find?_fencedBreak_ne :
    fencedBreak.WellFormed ∧ fencedBreak.LeavesBare root ∧
      ¬ (fencedBreak.normalize {}).SoleChildOfPre ⟨2⟩ ∧
      ∃ u, standard.Reaches fencedBreak [⟨4⟩] ⟨2⟩ [⟨1⟩] u ∧ u.tagName ⟨2⟩ = "code" ∧
        Text.isBlank (u.innerHtml ⟨2⟩).toList = false ∧
        RuleSet.standard.find? ⟨u, ⟨2⟩⟩ {} ≠ some ("inline_code", Rule.inlineCode) := by
  have h : fencedBreak.WellFormed := Tree.WellFormed.run _ Tree.wellFormed_empty
    (Tree.allAllowed_of_areAllowed (by decide +kernel))
  have bare : fencedBreak.LeavesBare root := Tree.leavesBare_of_forall_lt _ (by decide +kernel)
  have forest := (Tree.trims_normalize fencedBreak {}).isForest h.forest
  have facts : (fencedBreak.normalize {}).parent ⟨2⟩ = some ⟨1⟩ ∧
      (fencedBreak.normalize {}).parent ⟨4⟩ ≠ none ∧
      (fencedBreak.normalize {}).children ⟨1⟩ = [⟨2⟩, ⟨4⟩] ∧
      (fencedBreak.normalize {}).children ⟨4⟩ = [] ∧
      (fencedBreak.normalize {}).isElement ⟨4⟩ = true ∧
      Options.isVoid {} ((fencedBreak.normalize {}).tagName ⟨4⟩) = true ∧
      Rule.isForeignTag ((fencedBreak.normalize {}).tagName ⟨4⟩) = true ∧
      ((fencedBreak.normalize {}).levelOrder root).reverse = [⟨4⟩, ⟨2⟩, ⟨1⟩] ∧
      Tree.tagName ((fencedBreak.normalize {}).unwrap ⟨4⟩) ⟨2⟩ = "code" ∧
      Text.isBlank (Tree.innerHtml ((fencedBreak.normalize {}).unwrap ⟨4⟩) ⟨2⟩).toList = false ∧
      Rule.isCodeBlock ⟨(fencedBreak.normalize {}).unwrap ⟨4⟩, ⟨2⟩⟩ = true := by decide +kernel
  obtain ⟨hparent, hattached, hpre, hempty, helement, hvoid, hforeign, split, htag, hfull,
    hblock⟩ := facts
  -- the visit before that of the code finds no rule
  have vanishes : (fencedBreak.normalize {}).Vanishes ⟨4⟩ :=
    .void helement hvoid (RuleSet.standard_find?_of_foreign (n := ⟨_, ⟨4⟩⟩) hforeign {})
      (by rw [hempty]; exact List.forall_mem_nil _)
  have reaches : standard.Reaches fencedBreak [⟨4⟩] ⟨2⟩ [⟨1⟩]
      ((fencedBreak.normalize {}).unwrap ⟨4⟩) :=
    ⟨split, (visitAll_singleton ..).trans
      (visit_eq_unwrap hattached rfl (replacement?_of_vanishes vanishes rfl))⟩
  have found := RuleSet.standard_find?_of_code
    (n := ⟨(fencedBreak.normalize {}).unwrap ⟨4⟩, ⟨2⟩⟩) htag {}
  rw [if_pos hblock] at found
  refine ⟨h, bare, ?_, _, reaches, htag, hfull, fun heq => ?_⟩
  · rintro ⟨p, -, hchildren⟩
    have hp : (fencedBreak.normalize {}).parent ⟨2⟩ = some p :=
      forest.mem_iff.1 (by rw [hchildren]; exact List.mem_cons_self)
    obtain rfl : ⟨1⟩ = p := Option.some.inj (hparent.symm.trans hp)
    exact absurd (hpre.symm.trans hchildren) (by decide)
  · cases found.symm.trans heq

end Converter

end Tagdown
