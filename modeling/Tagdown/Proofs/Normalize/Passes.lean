import Tagdown.Proofs.Normalize
import Tagdown.Proofs.Normalize.NormalForm

/-!
# What the passes make of a document

The passes follow links and change them. What they make of the contents of a document is what the
functions on rows say: `stripComments` turns the contents of a node into `Rose.merged`, and
`normalizeNode` these into `Rose.settled` (`contents_normalize`). Nothing is asked of the document
but that its links are those of a forest.

A pass has a turn for each child of a node. One turn makes something of one child, or takes it out,
and leaves the contents of the others as they are (`Turn`). A pass over all children is a fold of
turns, and is followed by induction on the children whose turn is to come, with `done` for those
before them.
-/

namespace Tagdown.Tree

open Text (isCollapsible)

variable {t u : Tree} {p c : NodeId} {done rest : List NodeId}

/-- The children of a node, as far as they show. -/
def row (t : Tree) (id : NodeId) : Row :=
  (t.children id).map t.contents

theorem isText_iff : t.isText c = true ↔ t.label c = .text := by
  rw [isText]
  cases t.label c <;> simp [Label.isText]

/-- The kinds of nodes are those of their labels, whatever is below. -/
theorem kinds_map_contents (t : Tree) (ids : List NodeId) :
    (ids.map t.contents).map Rose.kind = ids.map t.label := by
  rw [List.map_map]
  exact List.map_congr_left fun id _ => kind_contents t id

/-! ## One turn

A turn is described by what becomes of one child. Of a turn it does not matter how the links have
changed, as long as the contents of the siblings are the same. -/

/-- A change at one child, and in the row that it stands in, is none to its siblings. -/
theorem contents_beside (ht : t.IsForest) (hu : u.IsForest)
    (hsplit : t.children p = done ++ c :: rest)
    (same : SameOff (fun x => x = p ∨ t.Within c x) t u) :
    done.map u.contents = done.map t.contents ∧ rest.map u.contents = rest.map t.contents := by
  have hnodup := ht.nodup p
  rw [hsplit, List.nodup_middle, List.nodup_cons] at hnodup
  have others : ∀ d ∈ done ++ rest, u.contents d = t.contents d := by
    intro d hd
    refine contents_sibling ht hu same (by rw [hsplit]; simp) ?_ ?_
    · rw [hsplit]
      rcases List.mem_append.1 hd with hd | hd
      · exact List.mem_append_left _ hd
      · exact List.mem_append_right _ (List.mem_cons_of_mem c hd)
    · rintro rfl
      exact hnodup.1 hd
  exact ⟨List.map_congr_left fun d hd => others d (List.mem_append_left _ hd),
    List.map_congr_left fun d hd => others d (List.mem_append_right _ hd)⟩

/-- What the turn of a child of `p` does between `done` and `rest`: the child becomes `became?`, or
is taken out. -/
structure Turn (p : NodeId) (t : Tree) (done rest : List NodeId) (became? : Option (Rose Node))
    (u : Tree) (done' : List NodeId) : Prop where
  forest : u.IsForest
  sameOff : SameOff (t.Within p) t u
  children : u.children p = done' ++ rest
  done : done'.map u.contents = done.map t.contents ++ became?.toList
  rest : rest.map u.contents = rest.map t.contents

/-- A turn that takes the child out. -/
theorem turn_detach (ht : t.IsForest) (hsplit : t.children p = done ++ c :: rest) :
    Turn p t done rest none (t.detach c) done := by
  have hc : c ∈ t.children p := by rw [hsplit]; simp
  have same := sameOff_detach ht hc
  obtain ⟨hdone, hrest⟩ := contents_beside ht (ht.detach c) hsplit (same.mono fun _ => Or.inl)
  refine ⟨ht.detach c, same.mono fun _ hx => Or.inl hx, ?_, ?_, hrest⟩
  · rw [ht.children_detach, hsplit, Arena.splice_middle (hsplit ▸ ht.nodup p), List.nil_append]
  · rw [hdone, Option.toList_none, List.append_nil]

/-- A turn that works inside the child alone: whatever is not below it is as it was. -/
theorem turn_within (ht : t.IsForest) (hu : u.IsForest) (hsplit : t.children p = done ++ c :: rest)
    (same : SameOff (t.Within c) t u) :
    Turn p t done rest (some (u.contents c)) u (done ++ [c]) := by
  have hc : c ∈ t.children p := by rw [hsplit]; simp
  obtain ⟨hdone, hrest⟩ := contents_beside ht hu hsplit (same.mono fun _ => Or.inr)
  refine ⟨hu, same.mono fun _ => (ht.within_of_mem hc).trans, ?_, ?_, hrest⟩
  · rw [(same p fun hx => ht.ne_of_within hc hx rfl).2, hsplit, List.append_assoc,
      List.singleton_append]
  · rw [List.map_append, hdone, List.map_singleton, Option.toList_some]

/-- A turn that does nothing. -/
theorem turn_keep (ht : t.IsForest) (hsplit : t.children p = done ++ c :: rest) :
    Turn p t done rest (some (t.contents c)) t (done ++ [c]) :=
  turn_within ht ht hsplit (SameOff.refl _ t)

/-- A text that is given a value shows it. -/
theorem contents_setValue (ht : t.IsForest) (htext : t.label c = .text) (value : String) :
    contents (t.setValue c value) c = (t.contents c).withValue value := by
  have hu : (t.setValue c value).IsForest := ht.modifyPayload c _
  rw [contents_of_leaf ht (by rw [htext]; rfl), contents_of_leaf hu (by simp [htext, Label.isLeaf]),
    node_setValue_self htext]
  rfl

/-- A turn that writes into the child, when that is a text. -/
theorem turn_setValue (ht : t.IsForest) (hsplit : t.children p = done ++ c :: rest)
    (htext : t.label c = .text) (value : String) :
    Turn p t done rest (some ((t.contents c).withValue value)) (t.setValue c value)
      (done ++ [c]) := by
  rw [← contents_setValue ht htext]
  exact turn_within ht (ht.modifyPayload c _) hsplit
    ((sameOff_setValue ht c value).mono fun _ => Or.inl)

/-- All turns after the first one stay where it stayed. -/
theorem SameOff.trans_within {v : Tree} (h : SameOff (t.Within p) t u)
    (h' : SameOff (u.Within p) u v) (ht : t.IsForest) (trims : Trims t u) :
    SameOff (t.Within p) t v :=
  h.trans (h'.mono fun _ => Arena.Within.mono (trims.parent_eq ht))

/-! ## One pass

What a pass makes of a node, and what it has made of a row of children. The latter is the
invariant of the fold over the children. -/

/-- What a pass makes of the contents of a node. It changes nothing outside. -/
structure Makes (t : Tree) (id : NodeId) (u : Tree) (made : Rose Node) : Prop where
  sameOff : SameOff (t.Within id) t u
  contents : u.contents id = made

/-- What a pass has made of a row. -/
structure MakesRow (t : Tree) (id : NodeId) (u : Tree) (made : Row) : Prop where
  sameOff : SameOff (t.Within id) t u
  row : u.row id = made

/-- The row that stands there is made by doing nothing. -/
theorem makesRow_self {made : Row} (h : t.row p = made) : MakesRow t p t made :=
  ⟨SameOff.refl _ t, h⟩

/-- The contents of a node follow its row. -/
theorem MakesRow.makes {made : Row} (h : MakesRow t p u made) (hu : u.IsForest)
    (trims : Trims t u) (hp : (t.label p).isLeaf = false) :
    Makes t p u (.node { label := t.label p } made) := by
  refine ⟨h.sameOff, ?_⟩
  rw [contents_of_inner hu (by rw [trims.label_eq, hp]), trims.label_eq, ← h.row]
  rfl

/-! ## Comments

The first pass goes over the children twice: comments are taken out and what is below the others
is dealt with, and then texts are merged from the left. `Row.joinTexts` joins them from the
right. -/

section Strip

variable {fuel : Nat}
variable (ih : ∀ (t : Tree) (id : NodeId), t.IsForest → t.HeightLe fuel id →
  (t.label id).isLeaf = false → Makes t id (stripComments fuel t id) (t.contents id).merged)
include ih

/-- A turn of the first pass. A comment goes, and below any other child there is none in the
end. -/
theorem turn_stripChild (ht : t.IsForest) (hsplit : t.children p = done ++ c :: rest)
    (hheight : t.HeightLe fuel c) :
    ∃ done', Turn p t done rest
      (if t.label c = .comment then none else some (t.contents c).merged)
      (stripChild fuel t c) done' := by
  have inner (hlabel : (t.label c).isLeaf = false) :
      Turn p t done rest (some (t.contents c).merged) (stripComments fuel t c) (done ++ [c]) := by
    have made := ih t c ht hheight hlabel
    rw [← made.contents]
    exact turn_within ht ((trims_stripComments fuel t c).isForest ht) hsplit made.sameOff
  rcases hlabel : t.label c with _ | ⟨tag, attributes⟩ | _ | _
  · rw [stripChild, hlabel, if_neg Label.noConfusion]
    exact ⟨_, inner (by rw [hlabel]; rfl)⟩
  · rw [stripChild, hlabel, if_neg Label.noConfusion]
    exact ⟨_, inner (by rw [hlabel]; rfl)⟩
  · have hmerged : (t.contents c).merged = t.contents c := by
      rw [contents_of_leaf ht (by rw [hlabel]; rfl), Rose.merged_of_leaf]
    rw [stripChild, hlabel, if_neg Label.noConfusion, hmerged]
    exact ⟨_, turn_keep ht hsplit⟩
  · rw [stripChild, hlabel, if_pos rfl]
    exact ⟨_, turn_detach ht hsplit⟩

/-- All turns of the first pass over one row. The induction is on the children whose turn is still
to come, and for those the document is any that the earlier turns may have made. -/
theorem makesRow_foldl_stripChild :
    ∀ (rest done : List NodeId) (t : Tree), t.IsForest → t.children p = done ++ rest →
      (∀ c ∈ rest, t.HeightLe fuel c) →
      MakesRow t p (rest.foldl (stripChild fuel) t)
        (done.map t.contents ++ Rose.mergedAll (rest.map t.contents)) := by
  intro rest
  induction rest with
  | nil =>
    intro done t _ hsplit _
    refine makesRow_self ?_
    rw [row, hsplit, List.append_nil, List.map_nil, Rose.mergedAll, List.append_nil]
  | cons c rest ihrest =>
    intro done t ht hsplit hheight
    obtain ⟨done', turn⟩ := turn_stripChild ih ht hsplit (hheight c List.mem_cons_self)
    have trims := trims_stripChild (trims_stripComments fuel) t c
    have later := ihrest done' (stripChild fuel t c) turn.forest turn.children
      fun d hd => trims.heightLe ht (hheight d (List.mem_cons_of_mem c hd))
    refine ⟨turn.sameOff.trans_within later.sameOff ht trims, ?_⟩
    rw [List.foldl_cons, later.row, turn.done, turn.rest, List.map_cons, Rose.mergedAll,
      kind_contents, List.append_assoc]
    split <;> rfl

end Strip

/-- Of two texts next to each other the first takes in the second. -/
theorem turn_merge {l : List NodeId} {y : NodeId} (ht : t.IsForest)
    (hsplit : t.children p = l ++ y :: c :: rest) (hy : t.label y = .text) (value : String) :
    Turn p t l rest (some ((t.contents y).withValue value))
      (Arena.detach (t.setValue y value) c) (l ++ [y]) := by
  have set := turn_setValue ht hsplit hy value
  have gone := turn_detach set.forest set.children
  refine ⟨gone.forest, set.sameOff.trans_within gone.sameOff ht (trims_setValue t y value),
    gone.children, ?_, ?_⟩
  · rw [gone.done, set.done, Option.toList_none, List.append_nil]
  · rw [gone.rest]
    exact (List.cons.inj set.rest).2

/-- Nothing happens to a child that is no text, or that no text stands before. -/
theorem mergeIntoPrevious_eq_self (h : t.label c = .text → ∀ y, t.previousSibling c = some y →
    t.label y ≠ .text) : t.mergeIntoPrevious c = t := by
  rw [mergeIntoPrevious]
  split
  · rename_i y hc hy
    rw [if_neg]
    exact fun htext => h hc y hy (isText_iff.1 htext)
  · rfl

/-- With a text before it, a text is appended to that one and taken out. -/
theorem mergeIntoPrevious_of_text {y : NodeId} (hc : t.label c = .text)
    (hy : t.previousSibling c = some y) (htext : t.label y = .text) :
    t.mergeIntoPrevious c = Arena.detach (t.setValue y (t.value y ++ t.value c)) c := by
  rw [mergeIntoPrevious, hc, hy]
  exact if_pos (isText_iff.2 htext)

/-- A turn in which two texts became one leaves the row that all texts together make. -/
theorem Turn.joinTexts_eq {l : List NodeId} {y : NodeId} (hc : t.label c = .text)
    (hy : t.label y = .text)
    (turn : Turn p t l rest (some ((t.contents y).withValue (t.value y ++ t.value c))) u
      (l ++ [y])) :
    Row.joinTexts ((l ++ [y] ++ rest).map u.contents) =
      Row.joinTexts ((l ++ y :: c :: rest).map t.contents) := by
  have hvalues : t.value y ++ t.value c = (t.contents y).value ++ (t.contents c).value := by
    rw [value_contents (by rw [hy]; rfl), value_contents (by rw [hc]; rfl)]
  rw [List.map_append, turn.done, turn.rest, hvalues, Option.toList_some, List.append_assoc,
    List.singleton_append, ← Row.joinTexts_merge (by simpa using hy) (by simpa using hc)]
  simp

/-- No two texts meet where no text is put after a text. -/
theorem apart_concat (apart : (done.map t.label).IsChain Row.Apart)
    (h : t.label c = .text → ∀ y, done.getLast? = some y → t.label y ≠ .text) :
    ((done ++ [c]).map t.label).IsChain Row.Apart := by
  rw [List.map_append, List.map_singleton, List.isChain_append]
  refine ⟨apart, List.isChain_singleton _, ?_⟩
  rintro x hx _ ⟨⟩ ⟨rfl, hc⟩
  rw [List.getLast?_map, Option.mem_def, Option.map_eq_some_iff] at hx
  obtain ⟨y, hy, hlabel⟩ := hx
  exact h hc y hy hlabel

/-- The children in `done` are those that texts were merged into already, so that no two texts meet
among them. -/
theorem makesRow_foldl_mergeIntoPrevious :
    ∀ (rest done : List NodeId) (t : Tree), t.IsForest → t.children p = done ++ rest →
      (done.map t.label).IsChain Row.Apart →
      MakesRow t p (rest.foldl mergeIntoPrevious t)
        (Row.joinTexts ((done ++ rest).map t.contents)) := by
  intro rest
  induction rest with
  | nil =>
    intro done t _ hsplit apart
    refine makesRow_self ?_
    rw [← kinds_map_contents] at apart
    rw [row, hsplit, List.append_nil, Row.joinTexts_eq_self apart]
  | cons c rest ih =>
    intro done t ht hsplit apart
    have hprevious : t.previousSibling c = done.getLast? := (ht.siblings hsplit).1
    by_cases htexts : t.label c = .text ∧ ∃ y, done.getLast? = some y ∧ t.label y = .text
    -- two texts meet: the first of them gets both values and stays the last of those done
    · obtain ⟨hc, y, hlast, hy⟩ := htexts
      obtain ⟨l, rfl⟩ := List.getLast?_eq_some_iff.1 hlast
      have trims := trims_mergeIntoPrevious t c
      rw [mergeIntoPrevious_of_text hc (hprevious.trans hlast) hy] at trims
      rw [List.append_assoc, List.singleton_append] at hsplit ⊢
      have turn := turn_merge ht hsplit hy (t.value y ++ t.value c)
      have later := ih (l ++ [y]) _ turn.forest turn.children (by
        rw [List.map_congr_left fun x _ => trims.label_eq x]
        exact apart)
      rw [turn.joinTexts_eq hc hy] at later
      rw [List.foldl_cons, mergeIntoPrevious_of_text hc (hprevious.trans hlast) hy]
      exact ⟨turn.sameOff.trans_within later.sameOff ht trims, later.row⟩
    -- otherwise the child stays, and is the last of those done
    · rw [not_and, not_exists] at htexts
      have stays : t.label c = .text → ∀ y, done.getLast? = some y → t.label y ≠ .text :=
        fun hc y hy htext => htexts hc y ⟨hy, htext⟩
      have later := ih (done ++ [c]) t ht (by simpa using hsplit) (apart_concat apart stays)
      rw [List.foldl_cons, mergeIntoPrevious_eq_self (hprevious ▸ stays)]
      simpa using later

/-- **The first pass** takes out the comments and makes one text of each run of texts. By induction
on the fuel, which is as large as the tree below the node is high. -/
theorem makes_stripComments (fuel : Nat) :
    ∀ (t : Tree) (id : NodeId), t.IsForest → t.HeightLe fuel id →
      (t.label id).isLeaf = false →
      Makes t id (stripComments fuel t id) (t.contents id).merged := by
  induction fuel with
  | zero => exact fun _ _ _ hheight => hheight.elim
  | succ fuel ih =>
    intro t id ht hheight hid
    have hfold := trims_foldl (trims_stripChild (trims_stripComments fuel)) (t.children id) t
    have stripped := makesRow_foldl_stripChild ih (t.children id) [] t ht rfl hheight
    have joined := makesRow_foldl_mergeIntoPrevious
      (Arena.children ((t.children id).foldl (stripChild fuel) t) id) [] _ (hfold.isForest ht) rfl
      List.isChain_nil
    -- first every child is stripped, and then the texts are merged from left to right
    have both : MakesRow t id (stripComments (fuel + 1) t id)
        (Row.joinTexts (Rose.mergedAll (t.row id))) := by
      rw [stripComments_succ]
      refine ⟨stripped.sameOff.trans_within joined.sameOff ht hfold, ?_⟩
      rw [joined.row]
      exact congrArg Row.joinTexts stripped.row
    have trims := trims_stripComments (fuel + 1) t id
    rw [contents_of_inner ht hid, Rose.merged]
    exact both.makes (trims.isForest ht) trims hid

/-! ## White space

The second pass trims the row of a block before it looks at the children. Each child then has its
turn between the siblings as they stand at that moment. -/

/-- **Trimming** one end of a node is trimming its row. A blank text is taken out in each round
until there is another node in its place. -/
theorem makesRow_trimStart (fuel : Nat) :
    ∀ t : Tree, t.IsForest → (t.children p).length ≤ fuel →
      MakesRow t p (trimStart fuel t p) (Row.trimStart (t.row p)) := by
  induction fuel with
  | zero =>
    intro t ht hlength
    have hchildren := List.length_eq_zero_iff.1 (Nat.le_zero.1 hlength)
    exact makesRow_self (by rw [row, hchildren]; rfl)
  | succ fuel ih =>
    intro t ht hlength
    rw [trimStart, ht.first p]
    cases hchildren : t.children p with
    | nil => exact makesRow_self (by rw [row, hchildren]; rfl)
    | cons c rest =>
      have hsplit : t.children p = [] ++ c :: rest := hchildren
      have hrow : t.row p = t.contents c :: rest.map t.contents := by
        rw [row, hchildren, List.map_cons]
      rw [List.head?_cons, hrow, Row.trimStart, Row.trimFirst, kind_contents]
      by_cases htext : t.label c = .text
      · rw [if_pos htext, value_contents (by rw [htext]; rfl)]
        simp only [isText_iff.2 htext, if_true]
        split
        -- the text was blank: one child less, and another round
        · have turn := turn_detach ht hsplit
          have later := ih (t.detach c) turn.forest (by
            rw [turn.children, List.nil_append]
            rw [hchildren, List.length_cons] at hlength
            omega)
          refine ⟨turn.sameOff.trans_within later.sameOff ht (trims_detach t c), ?_⟩
          rw [later.row, row, turn.children, List.nil_append, turn.rest, Row.trimStart]
        -- the text is shortened, and this was the last round
        · have turn := turn_setValue ht hsplit htext
            (String.ofList (Text.trimStartWhile isCollapsible (t.value c).toList))
          refine ⟨turn.sameOff, ?_⟩
          rw [row, turn.children, List.map_append, turn.done, turn.rest]
          rfl
      · simp only [isText_iff, htext, if_false]
        exact makesRow_self hrow

/-- Trimming at the end of the children does to their row what it does to rows. There are as many
rounds as texts that go, and each takes one child away. -/
theorem makesRow_trimEnd (fuel : Nat) :
    ∀ t : Tree, t.IsForest → (t.children p).length ≤ fuel →
      MakesRow t p (trimEnd fuel t p) (Row.trimEnd (t.row p)) := by
  induction fuel with
  | zero =>
    intro t ht hlength
    have hchildren := List.length_eq_zero_iff.1 (Nat.le_zero.1 hlength)
    exact makesRow_self (by rw [row, hchildren]; rfl)
  | succ fuel ih =>
    intro t ht hlength
    rw [trimEnd, ht.last p]
    rcases List.eq_nil_or_concat (t.children p) with hchildren | ⟨done, c, hchildren⟩
    · rw [hchildren]
      exact makesRow_self (by rw [row, hchildren]; rfl)
    · rw [List.concat_eq_append] at hchildren
      have hrow : t.row p = done.map t.contents ++ [t.contents c] := by
        rw [row, hchildren, List.map_append, List.map_singleton]
      rw [hchildren, List.getLast?_concat, hrow, Row.trimEnd, List.reverse_append,
        List.reverse_singleton, List.singleton_append, Row.trimFirst, kind_contents]
      by_cases htext : t.label c = .text
      · rw [if_pos htext, value_contents (by rw [htext]; rfl)]
        simp only [isText_iff.2 htext, if_true]
        split
        -- the text was blank: one child less, and another round
        · have turn := turn_detach ht hchildren
          have later := ih (t.detach c) turn.forest (by
            rw [turn.children, List.append_nil]
            rw [hchildren, List.length_append, List.length_singleton] at hlength
            omega)
          refine ⟨turn.sameOff.trans_within later.sameOff ht (trims_detach t c), ?_⟩
          rw [later.row, row, turn.children, List.append_nil, turn.done, Option.toList_none,
            List.append_nil, Row.trimEnd]
        -- the text is shortened, and this was the last round
        · have turn := turn_setValue ht hchildren htext
            (String.ofList (Text.trimEndWhile isCollapsible (t.value c).toList))
          refine ⟨turn.sameOff, ?_⟩
          rw [row, turn.children, List.append_nil, turn.done, List.reverse_cons,
            List.reverse_reverse, Option.toList_some]
      · simp only [isText_iff, htext, if_false, List.reverse_cons, List.reverse_reverse]
        exact makesRow_self hrow

/-- Both ends of the row are trimmed, the start before the end. -/
theorem makesRow_trimContent (ht : t.IsForest) (p : NodeId) :
    MakesRow t p (t.trimContent p) (Row.trimEnd (Row.trimStart (t.row p))) := by
  have trims := trims_trimStart t.size p t
  have start := makesRow_trimStart t.size t ht (ht.length_le p)
  have hforest := trims.isForest ht
  have finish := makesRow_trimEnd (trimStart t.size t p).size (trimStart t.size t p) hforest
    (hforest.length_le p)
  exact ⟨start.sameOff.trans_within finish.sameOff ht trims, by
    rw [← start.row]
    exact finish.row⟩

/-- Whether a row is trimmed is decided by the label above it. -/
theorem shouldTrim_eq (t : Tree) (options : Options) (id : NodeId) :
    t.shouldTrim options id = options.isTrimmedLabel (t.label id) := by
  rw [shouldTrim]
  cases t.label id <;> rfl

/-- Trim the content of a node if it is to be trimmed. -/
def trimBlock (t : Tree) (options : Options) (id : NodeId) : Tree :=
  if t.shouldTrim options id then t.trimContent id else t

/-- Below an element, its row is trimmed and then each of the children has its turn. -/
theorem normalizeNode_succ {options : Options} {fuel : Nat} (h : (t.label c).isLeaf = false) :
    normalizeNode options (fuel + 1) t c =
      (Arena.children (t.trimBlock options c) c).foldl (normalizeNode options fuel)
        (t.trimBlock options c) := by
  rw [normalizeNode]
  rcases hlabel : t.label c with _ | ⟨tag, attributes⟩ | _ | _
  · rfl
  · rfl
  · rw [hlabel] at h; cases h
  · rw [hlabel] at h; cases h

/-- Trimming a block is one of the ways in which a document is trimmed. -/
theorem trims_trimBlock (options : Options) (t : Tree) (id : NodeId) :
    Trims t (t.trimBlock options id) := by
  rw [trimBlock]
  split
  · exact trims_trimContent t id
  · exact Trims.refl t

/-- Before the turns of the children, their row is trimmed if it is that of a block. -/
theorem makesRow_trimBlock (options : Options) (ht : t.IsForest) (p : NodeId) :
    MakesRow t p (t.trimBlock options p)
      (if options.isTrimmedLabel (t.label p) then Row.trimEnd (Row.trimStart (t.row p))
        else t.row p) := by
  rw [trimBlock, shouldTrim_eq]
  split
  · exact makesRow_trimContent ht p
  · exact makesRow_self rfl

section Settle

variable (options : Options)

/-- The two neighbours of a child are those next to it in the row. -/
theorem hasAdjacentBlock_eq (ht : t.IsForest) (hsplit : t.children p = done ++ c :: rest) :
    t.hasAdjacentBlock options c =
      Row.besideBlock options (done.getLast?.map t.label) (rest.head?.map t.label) := by
  obtain ⟨hprevious, hnext⟩ := ht.siblings hsplit
  rw [hasAdjacentBlock, hprevious, hnext, Row.besideBlock, Option.any_map, Option.any_map]
  rfl

/-- What becomes of a text depends on its value, on its parent and on its two neighbours. -/
theorem normalizeText_eq (ht : t.IsForest) (hsplit : t.children p = done ++ c :: rest) :
    normalizeText options t c =
      if options.isPreformattedLabel (t.label p) then t
      else
        match Row.settleText (Row.besideBlock options (done.getLast?.map t.label)
            (rest.head?.map t.label)) (t.value c) with
        | some value => t.setValue c value
        | none => t.detach c := by
  have hpreformatted : t.isPreformattedElement options p =
      options.isPreformattedLabel (t.label p) := rfl
  rw [normalizeText, ht.parent_of_split hsplit, Row.settleText]
  simp only [hasAdjacentBlock_eq options ht hsplit, hpreformatted]
  split
  · rfl
  · split
    · split <;> rfl
    · rfl

/-- A turn of the second pass, when the child is a text: it is settled between the neighbours that
it has by now. -/
theorem turn_normalizeText (ht : t.IsForest) (hsplit : t.children p = done ++ c :: rest)
    (htext : t.label c = .text) :
    ∃ done', Turn p t done rest
      (Row.settleOne options (t.label p) (done.getLast?.map t.label) (rest.head?.map t.label)
        (t.contents c))
      (normalizeText options t c) done' := by
  rw [normalizeText_eq options ht hsplit, Row.settleOne_of_text (by simpa using htext),
    value_contents (by rw [htext]; rfl)]
  split
  · exact ⟨_, turn_keep ht hsplit⟩
  · cases Row.settleText (Row.besideBlock options (done.getLast?.map t.label)
        (rest.head?.map t.label)) (t.value c) with
    | none => exact ⟨_, turn_detach ht hsplit⟩
    | some value => exact ⟨_, turn_setValue ht hsplit htext value⟩

variable {options} {fuel : Nat}
variable (ih : ∀ (t : Tree) (id : NodeId), t.IsForest → t.HeightLe fuel id →
  (t.label id).isLeaf = false →
  Makes t id (normalizeNode options fuel t id) ((t.contents id).settled options))
include ih

/-- A turn of the second pass. Below an element, the rows come to be settled by induction on the
height. -/
theorem turn_normalizeNode (ht : t.IsForest) (hsplit : t.children p = done ++ c :: rest)
    (hheight : t.HeightLe fuel c) :
    ∃ done', Turn p t done rest
      (Row.settleOne options (t.label p) (done.getLast?.map t.label) (rest.head?.map t.label)
        ((t.contents c).settled options))
      (normalizeNode options fuel t c) done' := by
  cases hinner : (t.label c).isLeaf
  -- what is below a node is settled within it
  · have made := ih t c ht hheight hinner
    have turn := turn_within ht ((trims_normalizeNode options fuel t c).isForest ht) hsplit
      made.sameOff
    rw [made.contents] at turn
    rw [Row.settleOne_of_not_leaf (by simpa using hinner)]
    exact ⟨_, turn⟩
  · rw [Rose.settled_of_leaf (by simpa using hinner)]
    cases fuel with
    | zero => exact hheight.elim
    | succ fuel =>
      rw [normalizeNode]
      rcases hlabel : t.label c with _ | ⟨tag, attributes⟩ | _ | _
      · rw [hlabel] at hinner; cases hinner
      · rw [hlabel] at hinner; cases hinner
      -- a text looks at its neighbours, of which the one before has had its turn
      · exact turn_normalizeText options ht hsplit hlabel
      · refine ⟨done, ?_⟩
        rw [Row.settleOne, kind_contents, hlabel]
        exact turn_detach ht hsplit

/-- All turns of the second pass over one row. What stands before a child has had its turn and
stays, so the neighbour before is one that is settled; the neighbour after is still as it was. -/
theorem makesRow_foldl_normalizeNode :
    ∀ (rest done : List NodeId) (t : Tree), t.IsForest → t.children p = done ++ rest →
      (∀ c ∈ rest, t.HeightLe fuel c) →
      MakesRow t p (rest.foldl (normalizeNode options fuel) t)
        (done.map t.contents ++ Row.settleFrom options (t.label p)
          ((done.map t.contents).getLast?.map Rose.kind)
          ((rest.map t.contents).map (Rose.settled options))) := by
  intro rest
  induction rest with
  | nil =>
    intro done t _ hsplit _
    refine makesRow_self ?_
    rw [row, hsplit, List.append_nil, List.map_nil, List.map_nil, Row.settleFrom, List.append_nil]
  | cons c rest ihrest =>
    intro done t ht hsplit hheight
    obtain ⟨done', turn⟩ := turn_normalizeNode ih ht hsplit (hheight c List.mem_cons_self)
    have trims := trims_normalizeNode options fuel t c
    have later := ihrest done' (normalizeNode options fuel t c) turn.forest turn.children
      fun d hd => trims.heightLe ht (hheight d (List.mem_cons_of_mem c hd))
    refine ⟨turn.sameOff.trans_within later.sameOff ht trims, ?_⟩
    -- the two neighbours are seen in the rows as they are in the document
    have hbefore : (done.map t.contents).getLast?.map Rose.kind = done.getLast?.map t.label := by
      rw [← List.getLast?_map, kinds_map_contents, List.getLast?_map]
    have hafter : (((rest.map t.contents).map (Rose.settled options)).head?.map Rose.kind) =
        rest.head?.map t.label := by
      cases rest <;> simp
    rw [List.foldl_cons, later.row, turn.done, turn.rest, trims.label_eq, List.map_cons,
      List.map_cons, Row.settleFrom, hafter, hbefore, List.append_assoc]
    cases hsettled : Row.settleOne options (t.label p) (done.getLast?.map t.label)
        (rest.head?.map t.label) ((t.contents c).settled options) with
    | none => rw [Option.toList_none, List.nil_append, List.append_nil, hbefore]
    | some r =>
      have hkind := Row.kind_settleOne hsettled
      rw [Option.toList_some, List.getLast?_concat, Option.map_some, hkind]
      rfl

end Settle

/-- **The second pass** settles all rows. A row is trimmed before its children have their turns. In
`Rose.settled` it is the other way round, which comes to the same. -/
theorem makes_normalizeNode (options : Options) (fuel : Nat) :
    ∀ (t : Tree) (id : NodeId), t.IsForest → t.HeightLe fuel id →
      (t.label id).isLeaf = false →
      Makes t id (normalizeNode options fuel t id) ((t.contents id).settled options) := by
  induction fuel with
  | zero => exact fun _ _ _ hheight => hheight.elim
  | succ fuel ih =>
    intro t id ht hheight hid
    have trims := trims_normalizeNode options (fuel + 1) t id
    have trimmed := makesRow_trimBlock options ht id
    have trimsFirst := trims_trimBlock options t id
    have hv := trimsFirst.isForest ht
    -- after the trimming of the block, its children have their turns
    have settled := makesRow_foldl_normalizeNode ih
      (Arena.children (t.trimBlock options id) id) [] (t.trimBlock options id) hv rfl
      fun c hc => trimsFirst.heightLe ht (hheight c ((trimsFirst.children_sublist ht id).subset hc))
    rw [← normalizeNode_succ hid] at settled
    -- first the row is trimmed and then settled; in which order makes no difference to what is
    -- below
    have both : MakesRow t id (normalizeNode options (fuel + 1) t id)
        (Row.settle options (t.label id) (Rose.settledAll options (t.row id))) := by
      refine ⟨trimmed.sameOff.trans_within settled.sameOff ht trimsFirst, ?_⟩
      rw [settled.row, ← row, trimmed.row, trimsFirst.label_eq, Row.settle, Rose.settledAll_eq_map,
        Row.trimStart_map_settled, Row.trimEnd_map_settled, List.map_nil, List.nil_append,
        ← apply_ite (List.map (Rose.settled options))]
      rfl
    rw [contents_of_inner ht hid, Rose.settled, if_neg (by simp [hid])]
    exact both.makes (trims.isForest ht) trims hid

/-- **What normalization makes of a document**, whatever nodes the document is made of. All results
about normalization that speak of contents begin here. -/
theorem contents_normalize (h : t.WellFormed) (options : Options) :
    (t.normalize options).contents root = (t.contents root).merged.settled options := by
  have hroot : t.label root = .document := (h.label_eq_document h.root_lt).2 rfl
  have trims := trims_stripComments t.size t root
  have stripped := makes_stripComments t.size t root h.forest (h.forest.heightLe_size h.root_lt)
    (by rw [hroot]; rfl)
  have h' := trims.wellFormed h
  have settled := makes_normalizeNode options _ (stripComments t.size t root) root h'.forest
    (h'.forest.heightLe_size h'.root_lt) (by rw [trims.label_eq, hroot]; rfl)
  rw [normalize, ← stripped.contents]
  exact settled.contents

end Tagdown.Tree
