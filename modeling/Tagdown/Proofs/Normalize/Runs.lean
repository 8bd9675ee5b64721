import Mathlib.Data.List.SplitBy
import Tagdown.LevelOrder
import Tagdown.Proofs.Normalize.Passes

/-!
# Runs of texts

Among the children of a node, if its comments are left out, there are texts that stand next to each
other. `Tree.IsTextRun` says that some texts are such a run, and a run is as long as can be. To
follow them through a pass the children are cut into pieces (`Tree.runs`): each run of texts is a
piece, and so is each node of another kind (`isTextRun_iff`).

The pass that strips comments keeps the first node of each piece. What is said here needs no pass:
which nodes these are (`goes_iff`), and that the elements among the children, and the text of all of
them, can be read off the first nodes alone.
-/

namespace Tagdown.Tree

variable {t u : Tree} {p c x : NodeId} {ids run : List NodeId} {pieces : List (List NodeId)}

/-- Among the children of `p`, if comments are left out, the texts in `run` stand one after the
other, and no text stands right before or right after them. -/
def IsTextRun (t : Tree) (p : NodeId) (run : List NodeId) : Prop :=
  ∃ l r, ((t.children p).filter fun x => t.label x ≠ .comment) = l ++ run ++ r ∧
    (∀ x ∈ run, t.label x = .text) ∧ (∀ x ∈ l.getLast?, t.label x ≠ .text) ∧
    ∀ x ∈ r.head?, t.label x ≠ .text

/-- Some nodes in a row, cut between any two that are not both texts. -/
def cut (t : Tree) (ids : List NodeId) : List (List NodeId) :=
  ids.splitBy fun x y => t.isText x && t.isText y

/-- The pieces of the children of a node, when its comments are left out. -/
def runs (t : Tree) (p : NodeId) : List (List NodeId) :=
  t.cut ((t.children p).filter fun x => t.label x ≠ .comment)

/-- The first node of each piece. -/
def heads (pieces : List (List NodeId)) : List NodeId :=
  pieces.filterMap List.head?

@[simp] theorem heads_append (pieces pieces' : List (List NodeId)) :
    heads (pieces ++ pieces') = heads pieces ++ heads pieces' :=
  List.filterMap_append

/-- An empty piece would have no first node; no cut makes one. -/
@[simp] theorem heads_cons (run : List NodeId) (pieces : List (List NodeId)) :
    heads (run :: pieces) = run.head?.toList ++ heads pieces := by
  cases run <;> rfl

theorem mem_heads : x ∈ heads pieces ↔ ∃ run ∈ pieces, x ∈ run.head? :=
  List.mem_filterMap

/-- The first node of a piece is one of its nodes. -/
theorem heads_subset_flatten (pieces : List (List NodeId)) : heads pieces ⊆ pieces.flatten := by
  intro x hx
  obtain ⟨run, hrun, hhead⟩ := mem_heads.1 hx
  exact List.mem_flatten_of_mem hrun (List.mem_of_head? hhead)

/-- Cutting loses nothing and changes no order. -/
@[simp] theorem flatten_cut (t : Tree) (ids : List NodeId) : (t.cut ids).flatten = ids :=
  List.flatten_splitBy _ ids

/-- A piece has nodes of the row and no others. -/
theorem subset_of_mem_cut (h : run ∈ t.cut ids) : run ⊆ ids := by
  intro x hx
  rw [← flatten_cut t ids]
  exact List.mem_flatten_of_mem h hx

/-- So what stays of a row was in it. -/
theorem heads_cut_subset (t : Tree) (ids : List NodeId) : heads (t.cut ids) ⊆ ids := by
  rw [← flatten_cut t ids]
  simpa using heads_subset_flatten (t.cut ids)

/-- Where no cut is made, a text is followed by texts only. -/
theorem texts_of_isChain {first : NodeId} {rest : List NodeId}
    (hchain : (first :: rest).IsChain fun x y => (t.isText x && t.isText y) = true)
    (hfirst : t.isText first = true) : ∀ x ∈ first :: rest, t.isText x = true := by
  induction rest generalizing first with
  | nil => simpa using hfirst
  | cons second rest ih =>
    rw [List.isChain_cons_cons, Bool.and_eq_true] at hchain
    intro x hx
    rcases List.mem_cons.1 hx with rfl | hx
    · exact hfirst
    · exact ih hchain.2 hchain.1.2 x hx

/-- A piece is one node that is no text, or it is made of texts. -/
theorem cases_of_mem_cut (h : run ∈ t.cut ids) :
    (∃ x, run = [x] ∧ t.isText x = false) ∨ (run ≠ [] ∧ ∀ x ∈ run, t.isText x = true) := by
  have hne : run ≠ [] := List.ne_nil_of_mem_splitBy h
  have hchain := List.isChain_of_mem_splitBy h
  obtain ⟨x, rest, rfl⟩ := List.exists_cons_of_ne_nil hne
  cases hx : t.isText x with
  | true => exact Or.inr ⟨hne, texts_of_isChain hchain hx⟩
  | false =>
    cases rest with
    | nil => exact Or.inl ⟨x, rfl, hx⟩
    | cons y rest =>
      rw [List.isChain_cons_cons, hx, Bool.false_and] at hchain
      exact absurd hchain.1 Bool.false_ne_true

/-- One text in a piece makes all of it texts. -/
theorem texts_of_mem_cut (h : run ∈ t.cut ids) (hx : x ∈ run) (htext : t.isText x = true) :
    ∀ y ∈ run, t.isText y = true := by
  rcases cases_of_mem_cut h with ⟨y, rfl, hy⟩ | ⟨-, hrun⟩
  · obtain rfl := List.mem_singleton.1 hx
    rw [htext] at hy
    cases hy
  · exact hrun

/-- The pieces below a node are made of its children. -/
theorem runs_subset (h : run ∈ t.runs p) : run ⊆ t.children p :=
  fun _ hx => List.mem_of_mem_filter (subset_of_mem_cut h hx)

theorem isText_eq_false_iff : t.isText x = false ↔ t.label x ≠ .text := by
  rw [← Bool.not_eq_true, isText_iff]

/-- A run of texts is cut from what is before and after it and nowhere inside, so it is a
piece. -/
theorem IsTextRun.mem_runs (h : t.IsTextRun p run) (hne : run ≠ []) : run ∈ t.runs p := by
  obtain ⟨l, r, hsplit, texts, before, after⟩ := h
  have chain : run.IsChain fun x y => (t.isText x && t.isText y) = true := by
    refine List.Pairwise.isChain (List.pairwise_of_forall_mem_list fun x hx y hy => ?_)
    rw [isText_iff.2 (texts x hx), isText_iff.2 (texts y hy), Bool.and_self]
  rw [runs, cut, hsplit, List.splitBy_append, List.splitBy_append,
    List.splitBy_of_isChain hne chain]
  · simp
  · intro x hx _ _
    rw [isText_eq_false_iff.2 (before x hx), Bool.false_and]
  · intro _ _ y hy
    rw [isText_eq_false_iff.2 (after y hy), Bool.and_false]

/-- Since a cut is made at both ends, there is no text right before or after a piece of texts. -/
theorem isTextRun_of_mem_runs {first : NodeId} {rest : List NodeId}
    (hrun : first :: rest ∈ t.runs p) (hfirst : t.label first = .text) :
    t.IsTextRun p (first :: rest) := by
  have texts := texts_of_mem_cut hrun List.mem_cons_self (isText_iff.2 hfirst)
  obtain ⟨l, r, hcut⟩ := List.append_of_mem hrun
  have apart := List.isChain_getLast_head_splitBy (fun x y => t.isText x && t.isText y)
    ((t.children p).filter fun x => t.label x ≠ .comment)
  rw [← cut, ← runs, hcut, List.isChain_append, List.isChain_cons] at apart
  obtain ⟨-, ⟨after, -⟩, before⟩ := apart
  refine ⟨l.flatten, r.flatten, ?_, fun x hx => isText_iff.1 (texts x hx), ?_, ?_⟩
  · rw [← flatten_cut t (List.filter _ _), ← runs, hcut]
    simp
  · intro x hx
    rcases List.eq_nil_or_concat l with rfl | ⟨l, piece, rfl⟩
    · cases hx
    rw [List.concat_eq_append] at hx before
    obtain ⟨hne, _, hend⟩ := before piece (by simp) _ rfl
    rw [List.flatten_append, List.flatten_singleton, List.getLast?_append_of_ne_nil _ hne] at hx
    rwa [List.head_cons, isText_iff.2 hfirst, Bool.and_true, List.getLast_of_mem_getLast? hx,
      isText_eq_false_iff] at hend
  · intro x hx
    cases r with
    | nil => cases hx
    | cons piece r =>
      obtain ⟨_, hne, hbegin⟩ := after piece rfl
      rw [List.flatten_cons, List.head?_append_of_ne_nil _ hne] at hx
      rwa [texts _ (List.getLast_mem _), Bool.true_and, List.head_of_mem_head? hx,
        isText_eq_false_iff] at hbegin

/-- **The runs of texts are the pieces that are made of texts.** So a run can be spoken of in either
way: by its neighbours in the document, or as a piece of the row. -/
theorem isTextRun_iff {first : NodeId} {rest : List NodeId} :
    t.IsTextRun p (first :: rest) ↔ first :: rest ∈ t.runs p ∧ t.label first = .text := by
  constructor
  · intro h
    obtain ⟨-, -, -, texts, -⟩ := id h
    exact ⟨h.mem_runs (List.cons_ne_nil _ _), texts first List.mem_cons_self⟩
  · exact fun h => isTextRun_of_mem_runs h.1 h.2

/-- The last node is in the last piece, and the first node of that piece is the last one of those
that come first. -/
theorem getLast?_of_cut {last : List NodeId} (h : t.cut ids = pieces ++ [last]) :
    ids.getLast? = last.getLast? ∧ (heads (t.cut ids)).getLast? = last.head? := by
  have hne : last ≠ [] := List.ne_nil_of_mem_splitBy (h ▸ List.mem_concat_self)
  obtain ⟨x, rest, rfl⟩ := List.exists_cons_of_ne_nil hne
  constructor
  · rw [← flatten_cut t ids, h, List.flatten_append, List.flatten_singleton,
      List.getLast?_append_of_ne_nil _ hne]
  · rw [h, heads_append, heads_cons]
    simp [heads]

/-- A text goes into the piece of texts before it. -/
theorem cut_concat_of_texts {last : List NodeId} (h : t.cut ids = pieces ++ [last])
    (hlast : ∀ x ∈ last, t.isText x = true) (hc : t.isText c = true) :
    t.cut (ids ++ [c]) = pieces ++ [last ++ [c]] := by
  obtain ⟨hflatten, hnil, hchains, hapart⟩ := List.splitBy_eq_iff.1 h
  have hne : last ≠ [] := by
    rintro rfl
    simp at hnil
  refine List.splitBy_eq_iff.2 ⟨?_, ?_, ?_, ?_⟩
  · simp [hflatten]
  · simpa using fun hmem => hnil (List.mem_append_left _ hmem)
  -- every piece is still without a cut inside
  · intro run hrun
    rcases List.mem_append.1 hrun with hrun | hrun
    · exact hchains run (List.mem_append_left _ hrun)
    · rw [List.mem_singleton.1 hrun, List.isChain_append]
      refine ⟨hchains last (by simp), List.isChain_singleton c, ?_⟩
      rintro x hx _ ⟨⟩
      simp [hlast x (List.mem_of_getLast? hx), hc]
  -- and between two pieces there is still a cut, since the last one begins as before
  · rw [List.isChain_append] at hapart ⊢
    refine ⟨hapart.1, List.isChain_singleton _, ?_⟩
    rintro run hrun _ ⟨⟩
    obtain ⟨hrunne, _, hends⟩ := hapart.2.2 run hrun last rfl
    refine ⟨hrunne, by simp, ?_⟩
    rwa [List.head_append_of_ne_nil hne]

/-- Any other node begins a piece of its own. -/
theorem cut_concat_of_apart
    (h : ∀ x ∈ ids.getLast?, ¬ (t.isText x = true ∧ t.isText c = true)) :
    t.cut (ids ++ [c]) = t.cut ids ++ [[c]] := by
  refine List.splitBy_append ?_
  rintro x hx _ ⟨⟩
  rw [Bool.eq_false_iff, Ne, Bool.and_eq_true]
  exact h x hx

/-- What comes after the first node of a piece is the first one of none. -/
theorem not_mem_heads_of_mem_tail (hnodup : ids.Nodup) (hrun : run ∈ t.cut ids)
    (hx : x ∈ run.tail) : x ∉ heads (t.cut ids) := by
  obtain ⟨l, r, hcut⟩ := List.append_of_mem hrun
  obtain ⟨y, rest, rfl⟩ : ∃ y rest, run = y :: rest :=
    List.exists_cons_of_ne_nil (by rintro rfl; cases hx)
  rw [List.tail_cons] at hx
  rw [← flatten_cut t ids, hcut, List.flatten_append, List.flatten_cons, List.cons_append,
    List.nodup_append', List.nodup_cons, List.nodup_append'] at hnodup
  obtain ⟨-, ⟨hy, -, -, hright⟩, hleft⟩ := hnodup
  rw [hcut, heads_append, heads_cons, List.mem_append, List.mem_append]
  rintro (hmem | hmem | hmem)
  · exact hleft (heads_subset_flatten l hmem) (by simp [hx])
  · obtain rfl : x = y := by simpa using hmem
    exact hy (List.mem_append_left _ hx)
  · exact hright hx (heads_subset_flatten r hmem)

/-! ## Which nodes go

The nodes that go are said in two ways. `Goes` speaks of the document, and the first nodes of the
pieces are what the pass leaves; `goes_iff` has it that these leave nothing over. -/

/-- The nodes that go: comments in the document, and texts that come after another one in a run. -/
def Goes (t : Tree) (x : NodeId) : Prop :=
  t.Below root x ∧
    (t.label x = .comment ∨ ∃ p first rest, t.IsTextRun p (first :: rest) ∧ x ∈ rest)

/-- A child is the first node of a piece if it is no comment and comes after no text of its run. -/
theorem mem_heads_runs_iff (ht : t.IsForest) : x ∈ heads (t.runs p) ↔
    x ∈ t.children p ∧ t.label x ≠ .comment ∧
      ∀ first rest, t.IsTextRun p (first :: rest) → x ∉ rest := by
  have hnodup : ((t.children p).filter fun x => t.label x ≠ .comment).Nodup :=
    (ht.nodup p).filter _
  constructor
  · intro hx
    have hmem := List.mem_filter.1 (heads_cut_subset t _ hx)
    refine ⟨hmem.1, by simpa using hmem.2, fun first rest hrun hrest => ?_⟩
    exact not_mem_heads_of_mem_tail hnodup (isTextRun_iff.1 hrun).1 hrest hx
  · rintro ⟨hx, hlabel, hfirst⟩
    have hmem : x ∈ (t.runs p).flatten := by
      rw [runs, flatten_cut]
      exact List.mem_filter.2 ⟨hx, by simpa using hlabel⟩
    -- the child is in some piece, alone or among texts
    obtain ⟨run, hrun, hxrun⟩ := List.mem_flatten.1 hmem
    refine mem_heads.2 ⟨run, hrun, ?_⟩
    rcases cases_of_mem_cut hrun with ⟨y, rfl, -⟩ | ⟨hne, texts⟩
    · rw [List.mem_singleton.1 hxrun]
      rfl
    · obtain ⟨first, rest, rfl⟩ := List.exists_cons_of_ne_nil hne
      rcases List.mem_cons.1 hxrun with rfl | hrest
      · rfl
      · have htext := isText_iff.1 (texts first List.mem_cons_self)
        exact absurd hrest (hfirst first rest (isTextRun_iff.2 ⟨hrun, htext⟩))

/-- What goes below a node is what is not the first of its piece, comments included. -/
theorem goes_iff (ht : t.IsForest) (hp : t.Within root p) (hx : x ∈ t.children p) :
    t.Goes x ↔ x ∉ heads (t.runs p) := by
  have hbelow : t.Below root x := by
    rcases hp with rfl | hp
    · exact ht.below_of_mem hx
    · exact hp.trans (ht.below_of_mem hx)
  rw [Goes, and_iff_right hbelow, mem_heads_runs_iff ht, and_iff_right hx, not_and_or, not_not]
  refine or_congr_right ⟨?_, ?_⟩
  · rintro ⟨q, first, rest, hrun, hrest⟩ hstays
    have hq := runs_subset (isTextRun_iff.1 hrun).1 (List.mem_cons_of_mem first hrest)
    obtain rfl := ht.parent_unique hq hx
    exact hstays first rest hrun hrest
  · intro hgoes
    simp only [not_forall, not_not] at hgoes
    obtain ⟨first, rest, hrun, hrest⟩ := hgoes
    exact ⟨p, first, rest, hrun, hrest⟩

/-! ## What is read off the first nodes

Whoever reads the children of a node in the merged document reads the first nodes of the pieces.
What is read of a piece is the same for its first node, when that one has the values of them all. -/

/-- What is picked out of all pieces is picked out of the first nodes, if this is so piece by
piece. -/
theorem filter_heads {f : NodeId → Bool}
    (each : ∀ run ∈ pieces, run.head?.toList.filter f = run.filter f) :
    (heads pieces).filter f = pieces.flatten.filter f := by
  induction pieces with
  | nil => rfl
  | cons run pieces ih =>
    rw [heads_cons, List.flatten_cons, List.filter_append, List.filter_append,
      each run List.mem_cons_self, ih fun run hrun => each run (List.mem_cons_of_mem _ hrun)]

/-- The text of all pieces can be gathered from their first nodes, if it can be piece by piece. -/
theorem gathered_heads
    (each : ∀ run ∈ pieces, u.gathered run.head?.toList = t.gathered run) :
    u.gathered (heads pieces) = t.gathered pieces.flatten := by
  induction pieces with
  | nil => rfl
  | cons run pieces ih =>
    rw [heads_cons, List.flatten_cons, gathered_append, gathered_append,
      each run List.mem_cons_self, ih fun run hrun => each run (List.mem_cons_of_mem _ hrun)]

/-- Comments have no text. -/
theorem gathered_filter_ne_comment (t : Tree) (ht : t.IsForest) (ids : List NodeId) :
    t.gathered (ids.filter fun x => t.label x ≠ .comment) = t.gathered ids := by
  induction ids with
  | nil => rfl
  | cons x ids ih =>
    rw [gathered_cons, ← ih]
    by_cases hx : t.label x = .comment
    · have hempty : t.gathered [x] = "" := by
        have hnode : (t.node x).label = .comment := hx
        rw [gathered_singleton, markup_eq ht, Node.gatherText, hnode]
      rw [List.filter_cons_of_neg (by simpa using hx), hempty, String.empty_append]
    · rw [List.filter_cons_of_pos (by simpa using hx), gathered_cons]

/-- What a piece adds to the text around it, its first node adds once it has all values. -/
theorem gathered_run (ht : t.IsForest) (hu : u.IsForest) (labels : ∀ x, u.label x = t.label x)
    (hrun : run ∈ t.runs p) (values : ∀ x ∈ run.head?, u.value x = t.values run)
    (inside : ∀ x ∈ run, u.gathered (u.children x) = t.gathered (t.children x)) :
    u.gathered run.head?.toList = t.gathered run := by
  rcases cases_of_mem_cut hrun with ⟨x, rfl, -⟩ | ⟨hne, texts⟩
  · have hvalue : u.value x = t.value x := by simpa using values x rfl
    have hnode : u.node x = t.node x :=
      calc u.node x = ⟨u.label x, u.value x⟩ := rfl
        _ = ⟨t.label x, t.value x⟩ := by rw [labels, hvalue]
        _ = t.node x := rfl
    exact gathered_singleton_congr ht hu hnode (inside x List.mem_cons_self)
  · obtain ⟨x, rest, rfl⟩ := List.exists_cons_of_ne_nil hne
    have hx : (u.node x).label = .text := by
      rw [← label, labels]
      exact isText_iff.1 (texts x List.mem_cons_self)
    rw [List.head?_cons, Option.toList_some, gathered_singleton, markup_eq hu,
      Node.gatherText_of_text hx, gathered,
      gatherTexts_of_texts ht fun y hy => isText_iff.1 (texts y hy)]
    exact values x rfl

/-- An element is a piece by itself, and so none is lost. -/
theorem filter_isElement_runs (t : Tree) (p : NodeId) :
    (heads (t.runs p)).filter t.isElement = t.elementChildren p := by
  have each : ∀ run ∈ t.runs p, run.head?.toList.filter t.isElement = run.filter t.isElement := by
    intro run hrun
    rcases cases_of_mem_cut hrun with ⟨x, rfl, -⟩ | ⟨-, texts⟩
    · rfl
    · have none : ∀ x ∈ run, ¬ t.isElement x = true := by
        intro x hx
        rw [isElement, isText_iff.1 (texts x hx)]
        exact Bool.false_ne_true
      rw [List.filter_eq_nil_iff.2 none, List.filter_eq_nil_iff.2 fun x hx =>
        none x (List.mem_of_head? (Option.mem_toList.1 hx))]
  have elements : ∀ x, t.isElement x = true → t.label x ≠ .comment := by
    intro x hx hlabel
    rw [isElement, hlabel] at hx
    cases hx
  rw [filter_heads each, runs, flatten_cut, List.filter_filter, elementChildren]
  refine List.filter_congr fun x _ => ?_
  cases hx : t.isElement x with
  | true => simp [elements x hx]
  | false => rfl

end Tagdown.Tree
