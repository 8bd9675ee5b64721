import Tagdown.Proofs.Document.History
import Tagdown.Proofs.Normalize.Passes

/-!
# Normalization is done once

Where a document has its normal form, every step of the passes leaves the whole arena as it is:
there is no comment to take out and no text to merge, each text is given the value that it has, and
the ends of a block are not white space (`stripComments_eq_self`, `normalizeNode_eq_self`). Since
normalization leads to the normal form, it changes nothing when it is done once more
(`normalize_normalize`).
-/

namespace Tagdown.Tree

open Text (isCollapsible)

variable {t : Tree} {p c : NodeId} {done rest : List NodeId} {options : Options}

/-- To give a node the value that it has changes nothing. -/
theorem setValue_value (t : Tree) (id : NodeId) : t.setValue id (t.value id) = t := by
  obtain ⟨slots⟩ := t
  refine congrArg Arena.mk (Array.ext (Array.size_modify ..) fun i hi hi' => ?_)
  rw [Array.getElem_modify]
  split
  · rename_i hid
    have hvalue : (Tree.value ⟨slots⟩ id) = slots[i].payload.value := by
      rw [value, node, Arena.payload?, hid, Array.getElem?_eq_getElem hi']
      rfl
    show (⟨⟨slots[i].payload.label, Tree.value ⟨slots⟩ id⟩, slots[i].links⟩ : Slot Node) = slots[i]
    rw [hvalue]
  · rfl

/-- A loop in which no round changes anything changes nothing. -/
theorem foldl_eq_self {f : Tree → NodeId → Tree} {ids : List NodeId}
    (h : ∀ id ∈ ids, f t id = t) : ids.foldl f t = t := by
  induction ids with
  | nil => rfl
  | cons id ids ih =>
    rw [List.foldl_cons, h id List.mem_cons_self]
    exact ih fun x hx => h x (List.mem_cons_of_mem id hx)

/-! ## The normal form, seen from the nodes

The normal form was defined for contents. Asked of a node in the arena it says something of the
row of the node, and the same of each of its children. -/

/-- The document has its normal form from the node on. -/
def NormalAt (t : Tree) (options : Options) (id : NodeId) : Prop :=
  Rose.Everywhere (Row.Normal options) (t.contents id)

/-- What the normal form says of a node is something about its row, -/
theorem NormalAt.row (h : t.NormalAt options p) (ht : t.IsForest)
    (hp : (t.label p).isLeaf = false) : Row.Normal options (t.label p) (t.row p) := by
  rw [NormalAt, contents_of_inner ht hp] at h
  have hn : ({ label := t.label p } : Node).label.isLeaf = false := hp
  exact h.row hn

/-- and that the same is so of its children. -/
theorem NormalAt.child (h : t.NormalAt options p) (ht : t.IsForest)
    (hp : (t.label p).isLeaf = false) (hc : c ∈ t.children p) : t.NormalAt options c := by
  rw [NormalAt, contents_of_inner ht hp] at h
  exact h.of_mem hp (List.mem_map_of_mem hc)

theorem row_of_split (hsplit : t.children p = done ++ c :: rest) :
    t.row p = done.map t.contents ++ t.contents c :: rest.map t.contents := by
  rw [row, hsplit, List.map_append, List.map_cons]

/-- There is no comment in a joined row. -/
theorem label_ne_comment (h : (t.row p).Joined) (hc : c ∈ t.children p) : t.label c ≠ .comment := by
  rw [← kind_contents]
  exact h.kind_ne (List.mem_map_of_mem hc)

/-! ## Nothing is taken out

Each test that would detach a node fails, and so the links are those of the document. -/

/-- No text has a text before it, so there is nothing to merge it into. -/
theorem mergeIntoPrevious_eq_self_of_joined (ht : t.IsForest) (h : (t.row p).Joined)
    (hc : c ∈ t.children p) : t.mergeIntoPrevious c = t := by
  obtain ⟨done, rest, hsplit⟩ := List.append_of_mem hc
  rw [row_of_split hsplit] at h
  refine mergeIntoPrevious_eq_self fun htext y hy => ?_
  rw [(ht.siblings hsplit).1] at hy
  rw [← kind_contents]
  exact h.getLast?_kind_ne (by rw [kind_contents, htext]) (by rw [List.getLast?_map, hy]; rfl)

/-- By induction on the fuel, with the same tree handed on from child to child. -/
theorem stripComments_eq_self (ht : t.IsForest) (fuel : Nat) :
    ∀ id, (t.label id).isLeaf = false → t.NormalAt options id → stripComments fuel t id = t := by
  induction fuel with
  | zero => exact fun _ _ _ => rfl
  | succ fuel ih =>
    intro id hid normal
    have joined := (normal.row ht hid).toJoined
    have stripped : (t.children id).foldl (stripChild fuel) t = t := by
      refine foldl_eq_self fun c hc => ?_
      rcases hlabel : t.label c with _ | ⟨tag, attributes⟩ | _ | _
      · rw [stripChild, hlabel]
        exact ih c (by rw [hlabel]; rfl) (normal.child ht hid hc)
      · rw [stripChild, hlabel]
        exact ih c (by rw [hlabel]; rfl) (normal.child ht hid hc)
      · rw [stripChild, hlabel]
      · exact absurd hlabel (label_ne_comment joined hc)
    rw [stripComments_succ, stripped]
    exact foldl_eq_self fun c hc => mergeIntoPrevious_eq_self_of_joined ht joined hc

/-! ## No value changes

Each value that is written is the value that stands there. With the links unchanged, the arena is
the same arena. -/

/-- The first text begins with a solid character and is written back as it was. -/
theorem trimStart_eq_self (ht : t.IsForest) (h : Row.FirstText StartsSolid (t.row p))
    (fuel : Nat) : trimStart fuel t p = t := by
  cases fuel with
  | zero => rfl
  | succ fuel =>
    rw [trimStart, ht.first p]
    cases hchildren : t.children p with
    | nil => rfl
    | cons c rest =>
      rw [List.head?_cons]
      by_cases htext : t.label c = .text
      · have hsolid := h (t.contents c) (by rw [row, hchildren]; rfl) (by simpa using htext)
        rw [value_contents (by rw [htext]; rfl)] at hsolid
        have hempty : (t.value c).toList.isEmpty = false := by
          obtain ⟨d, s, hvalue, -⟩ := hsolid
          rw [hvalue]
          rfl
        simp only [isText_iff.2 htext, if_true, hsolid.trimStartWhile_eq, hempty,
          Bool.false_eq_true, if_false, String.ofList_toList, setValue_value]
      · simp only [isText_iff, htext, if_false]

/-- The last text ends with one. -/
theorem trimEnd_eq_self (ht : t.IsForest) (h : Row.FirstText EndsSolid (t.row p).reverse)
    (fuel : Nat) : trimEnd fuel t p = t := by
  cases fuel with
  | zero => rfl
  | succ fuel =>
    rw [trimEnd, ht.last p]
    rcases List.eq_nil_or_concat (t.children p) with hchildren | ⟨done, c, hchildren⟩
    · rw [hchildren]
      rfl
    · rw [List.concat_eq_append] at hchildren
      rw [hchildren, List.getLast?_concat]
      by_cases htext : t.label c = .text
      · have hsolid := h (t.contents c) (by rw [row, hchildren]; simp) (by simpa using htext)
        rw [value_contents (by rw [htext]; rfl)] at hsolid
        have hempty : (t.value c).toList.isEmpty = false := by
          obtain ⟨s, d, hvalue, -⟩ := hsolid
          rw [hvalue]
          simp
        simp only [isText_iff.2 htext, if_true, hsolid.trimEndWhile_eq, hempty,
          Bool.false_eq_true, if_false, String.ofList_toList, setValue_value]
      · simp only [isText_iff, htext, if_false]

/-- In the normal form a block that would be trimmed has been. -/
theorem trimBlock_eq_self (ht : t.IsForest) (h : Row.Normal options (t.label p) (t.row p)) :
    t.trimBlock options p = t := by
  rw [trimBlock, shouldTrim_eq]
  split
  · obtain ⟨hstart, hend⟩ := h.trimmed ‹_›
    rw [trimContent, trimStart_eq_self ht hstart, trimEnd_eq_self ht hend]
  · rfl

/-- A text outside of preformatted elements is what it is to be between its neighbours. -/
theorem settleText_value (h : Row.Normal options (t.label p) (t.row p))
    (hsplit : t.children p = done ++ c :: rest) (htext : t.label c = .text)
    (hparent : ¬ options.isPreformattedLabel (t.label p) = true) :
    Row.settleText (Row.besideBlock options (done.getLast?.map t.label) (rest.head?.map t.label))
      (t.value c) = some (t.value c) := by
  have hsettled := h.settledFrom
  rw [row_of_split hsplit] at hsettled
  replace hsettled := hsettled.of_append (by simpa using htext)
  rw [Option.or_none, ← List.getLast?_map, ← List.head?_map, kinds_map_contents,
    kinds_map_contents, List.getLast?_map, List.head?_map,
    Row.settleOne_of_text (by simpa using htext), value_contents (by rw [htext]; rfl),
    if_neg hparent] at hsettled
  obtain ⟨value, hvalue, heq⟩ := Option.map_eq_some_iff.1 hsettled
  -- the value that the text is given is its own
  obtain rfl : value = t.value c := by
    rw [← value_contents (by rw [htext]; rfl), ← heq, Rose.value_withValue]
  exact hvalue

/-- The value that a text is given is the value that it has. -/
theorem normalizeText_eq_self (ht : t.IsForest) (h : Row.Normal options (t.label p) (t.row p))
    (hc : c ∈ t.children p) (htext : t.label c = .text) : normalizeText options t c = t := by
  obtain ⟨done, rest, hsplit⟩ := List.append_of_mem hc
  rw [normalizeText_eq options ht hsplit]
  split
  · rfl
  · rename_i hparent
    rw [settleText_value h hsplit htext hparent]
    exact setValue_value t c

/-- By induction on the fuel: the passes of one node, and then its children. -/
theorem normalizeNode_eq_self (ht : t.IsForest) (fuel : Nat) :
    ∀ id, (t.label id).isLeaf = false → t.NormalAt options id →
      normalizeNode options fuel t id = t := by
  induction fuel with
  | zero => exact fun _ _ _ => rfl
  | succ fuel ih =>
    intro id hid normal
    have hrow := normal.row ht hid
    rw [normalizeNode_succ hid, trimBlock_eq_self ht hrow]
    refine foldl_eq_self fun c hc => ?_
    cases hinner : (t.label c).isLeaf
    · exact ih c hinner (normal.child ht hid hc)
    · cases fuel with
      | zero => rfl
      | succ fuel =>
        rw [normalizeNode]
        rcases hlabel : t.label c with _ | ⟨tag, attributes⟩ | _ | _
        · rw [hlabel] at hinner; cases hinner
        · rw [hlabel] at hinner; cases hinner
        · exact normalizeText_eq_self ht hrow hc hlabel
        · exact absurd hlabel (label_ne_comment hrow.toJoined hc)

/-! ## Normalizing twice -/

/-- What comes out of normalization is in the normal form, from the root on. -/
theorem normalAt_normalize (h : t.WellFormed) (options : Options) :
    (t.normalize options).NormalAt options root := by
  rw [NormalAt, contents_normalize h]
  exact Rose.everywhere_normal options _

/-- A document that is in its normal form, but for comments and cut texts, is what is left of it. -/
theorem contents_normalize_of_normal (h : t.WellFormed) {r : Rose Node}
    (hmerged : (t.contents root).merged = r) (normal : Rose.Everywhere (Row.Normal options) r) :
    (t.normalize options).contents root = r := by
  rw [contents_normalize h, hmerged, normal.settled_eq]

/-- **To normalize a document again changes nothing**: no link and no value of any node, whether it
stands below the root or not. -/
theorem normalize_normalize (h : t.WellFormed) (options : Options) :
    (t.normalize options).normalize options = t.normalize options := by
  have normal := normalAt_normalize h options
  have h' := (trims_normalize t options).wellFormed h
  generalize t.normalize options = u at normal h'
  have hroot : (u.label root).isLeaf = false := by
    rw [(h'.label_eq_document h'.root_lt).2 rfl]
    rfl
  rw [normalize, stripComments_eq_self h'.forest u.size root hroot normal]
  exact normalizeNode_eq_self h'.forest u.size root hroot normal

/-- Two paragraphs with white space at their ends and between them, a comment that parts two texts,
and a text that has a child and is taken out. -/
def draft : Tree :=
  Tree.empty.run
    [.createElement "p" [], .append root ⟨1⟩, .createText " one ", .append ⟨1⟩ ⟨2⟩,
     .createComment "or", .append ⟨1⟩ ⟨3⟩, .createText " two ", .append ⟨1⟩ ⟨4⟩,
     .createText " ", .append root ⟨5⟩, .createElement "p" [], .append root ⟨6⟩,
     .createText "three", .append ⟨6⟩ ⟨7⟩, .createText "\n", .append ⟨5⟩ ⟨8⟩]

theorem normalize_normalize_draft :
    draft.WellFormed ∧ (draft.normalize {}).innerHtml root = "<p>one two</p><p>three</p>" ∧
      (draft.normalize {}).normalize {} = draft.normalize {} := by
  have h : draft.WellFormed :=
    WellFormed.run _ wellFormed_empty (allAllowed_of_areAllowed (by decide +kernel))
  exact ⟨h, by decide +kernel, normalize_normalize h {}⟩

end Tagdown.Tree
