import Tagdown.Proofs.Normalize.NormalForm

/-!
# The pieces of a row

A row shows elements, and between them characters. `Row.pieces keep` is the row as the list of both,
of the characters only those that are to be kept. What normalization makes of a row
(`Row.normalized`) has the same pieces, each element of them normalized itself, in two cases: the
characters that are kept are no white space, or the row stands where white space is kept
(`Row.pieces_normalized`).

From the pieces one reads off the elements of a row (`Row.elements_eq`), the text without markup
(`Row.toList_gatherTexts`), and the texts that stand between the elements (`Row.stretches`). So
nothing has to be proved of the two passes for each of these.
-/

namespace Tagdown

open Text (isCollapsible)

/-! ## Characters that are no white space

These are never lost. Collapsing, trimming and dropping texts are about white space, and so all
of it can be ignored in what is compared. -/

/-- The character is not collapsed with others. -/
def isSolid (c : Char) : Bool :=
  !isCollapsible c

/-- The characters of a text that are no white space. -/
def solid (s : String) : List Char :=
  s.toList.filter isSolid

/-- There are no such characters in white space. -/
theorem solid_eq_nil_iff {s : String} : solid s = [] ↔ s.toList.all isCollapsible = true := by
  simp [solid, isSolid]

/-- Of white space nothing is kept. -/
def SkipsSpace (keep : Char → Bool) : Prop :=
  ∀ c, isCollapsible c = true → keep c = false

/-- To keep what is no white space is to keep no white space. -/
theorem skipsSpace_isSolid : SkipsSpace isSolid := by
  intro c hc
  rw [isSolid, hc]
  rfl

section Skip

variable {keep : Char → Bool} (hkeep : SkipsSpace keep)
include hkeep

/-- To collapse white space changes nothing of what is kept, when no white space is. -/
theorem filter_collapseFrom (s : List Char) :
    ∀ afterSpace, (collapseFrom afterSpace s).filter keep = s.filter keep := by
  induction s with
  | nil => exact fun _ => rfl
  | cons c s ih =>
    intro afterSpace
    rw [collapseFrom]
    split
    · rename_i hc
      rw [List.filter_cons_of_neg (by simp [hkeep c hc])]
      split
      · exact ih true
      · rw [List.filter_cons_of_neg (by simp [hkeep ' ' isCollapsible_space]), ih true]
    · rw [List.filter_cons, List.filter_cons, ih false]

/-- Nothing is kept of white space. -/
theorem filter_eq_nil_of_all {s : List Char} (hall : s.all isCollapsible = true) :
    s.filter keep = [] := by
  refine List.filter_eq_nil_iff.2 fun c hc => ?_
  simp [hkeep c (List.all_eq_true.1 hall c hc)]

/-- What is trimmed at the start is not missed. -/
theorem filter_trimStartWhile (s : List Char) :
    (Text.trimStartWhile isCollapsible s).filter keep = s.filter keep := by
  have hwhole : (s.takeWhile isCollapsible).filter keep = [] :=
    filter_eq_nil_of_all hkeep (List.all_takeWhile ..)
  conv_rhs => rw [← List.takeWhile_append_dropWhile (p := isCollapsible) (l := s)]
  rw [List.filter_append, hwhole, List.nil_append]
  rfl

/-- What is trimmed at the end is not missed. -/
theorem filter_trimEndWhile (s : List Char) :
    (Text.trimEndWhile isCollapsible s).filter keep = s.filter keep := by
  have hstart := filter_trimStartWhile hkeep s.reverse
  rw [Text.trimStartWhile] at hstart
  rw [Text.trimEndWhile, List.filter_reverse, hstart, List.filter_reverse, List.reverse_reverse]

end Skip

/-- What a row becomes below a node of the kind `parent`, with all that is below it. -/
def Row.normalized (options : Options) (parent : Label) (row : Row) : Row :=
  Row.settle options parent (Rose.settledAll options (Row.joinTexts (Rose.mergedAll row)))

namespace Rose

/-- What normalization makes of a document. -/
def normalized (options : Options) (r : Rose Node) : Rose Node :=
  r.merged.settled options

/-- To normalize a node that is no leaf is to normalize its row. -/
theorem normalized_of_inner {n : Node} (hn : n.label.isLeaf = false) (options : Options)
    (row : Row) : normalized options (.node n row) = .node n (row.normalized options n.label) := by
  rw [normalized, merged, settled, if_neg (by simp [hn])]
  rfl

end Rose

namespace Row

/-! ## Pieces

A list with two kinds of entries, characters to be kept and elements. It does not show how the
characters are divided into texts. -/

/-- What one tree shows in its row: the characters of a text, an element as a whole. -/
def piece (keep : Char → Bool) (t : Rose Node) : List (Rose Node ⊕ Char) :=
  match t.kind with
  | .text => (t.value.toList.filter keep).map .inr
  | .element _ _ => [.inl t]
  | .comment => []
  | .document => []

/-- What a row shows. -/
def pieces (keep : Char → Bool) (row : Row) : List (Rose Node ⊕ Char) :=
  row.flatMap (piece keep)

variable {keep : Char → Bool} {options : Options} {parent : Label}

theorem pieces_cons (t : Rose Node) (row : Row) :
    pieces keep (t :: row) = piece keep t ++ pieces keep row :=
  List.flatMap_cons

theorem piece_of_text {t : Rose Node} (ht : t.kind = .text) :
    piece keep t = (t.value.toList.filter keep).map .inr := by
  rw [piece, ht]

/-- A text with another value shows that value. -/
theorem piece_withValue {t : Rose Node} (ht : t.kind = .text) (value : String) :
    piece keep (t.withValue value) = (value.toList.filter keep).map .inr :=
  piece_of_text ht

/-- Only the kind and the value of a tree matter, if it is no element. -/
theorem piece_map {f : Rose Node → Rose Node} (kind : ∀ t, (f t).kind = t.kind)
    (value : ∀ t, t.kind = .text → (f t).value = t.value) (t : Rose Node) :
    piece keep (f t) = (piece keep t).map (Sum.map f id) := by
  rw [piece, piece, kind]
  split
  · rename_i htext
    rw [value t htext, List.map_map]
    rfl
  · rfl
  · rfl
  · rfl

/-- The same of a row: its characters stay, and each element is taken to another one. -/
theorem pieces_map {f : Rose Node → Rose Node} (kind : ∀ t, (f t).kind = t.kind)
    (value : ∀ t, t.kind = .text → (f t).value = t.value) (row : Row) :
    pieces keep (row.map f) = (pieces keep row).map (Sum.map f id) := by
  rw [pieces, pieces, List.flatMap_map, List.map_flatMap]
  exact congrArg (List.flatMap · row) (funext (piece_map kind value))

/-! ## The passes keep the pieces

One lemma for each step on rows, in the order of the steps. -/

/-- Whether texts are one or two, their characters are shown one after the other. -/
theorem pieces_consText (t : Rose Node) (row : Row) :
    pieces keep (consText t row) = piece keep t ++ pieces keep row := by
  cases row with
  | nil => simp [consText, pieces]
  | cons u us =>
    rw [consText]
    split
    · rename_i htexts
      rw [pieces_cons, pieces_cons, piece_withValue htexts.1, piece_of_text htexts.1,
        piece_of_text htexts.2]
      simp
    · rfl

/-- Texts that are joined show what they have shown apart. -/
theorem pieces_joinTexts (row : Row) : pieces keep (joinTexts row) = pieces keep row := by
  induction row with
  | nil => rfl
  | cons t ts ih => rw [joinTexts_cons, pieces_consText, ih, pieces_cons]

/-- A comment shows nothing. -/
theorem pieces_filter_comments (row : Row) :
    pieces keep (row.filter fun t => t.kind ≠ .comment) = pieces keep row := by
  induction row with
  | nil => rfl
  | cons t ts ih =>
    by_cases ht : t.kind = .comment
    · rw [List.filter_cons_of_neg (by simp [ht]), ih, pieces_cons, piece, ht]
      rfl
    · rw [List.filter_cons_of_pos (by simp [ht]), pieces_cons, pieces_cons, ih]

/-- A text is a leaf, and so it is merged already. -/
theorem value_merged (t : Rose Node) : t.merged.value = t.value := by
  cases t
  rw [Rose.merged]
  rfl

/-- After the first pass, a row shows the same characters and its elements as the pass has left
them. -/
theorem pieces_mergedAll (row : Row) :
    pieces keep (Rose.mergedAll row) = (pieces keep row).map (Sum.map Rose.merged id) := by
  rw [Rose.mergedAll_eq, pieces_map Rose.kind_merged fun t _ => value_merged t,
    pieces_filter_comments]

/-- The same of the second pass, as far as it is about what is below the row. -/
theorem pieces_settledAll (row : Row) :
    pieces keep (Rose.settledAll options row) =
      (pieces keep row).map (Sum.map (Rose.settled options) id) := by
  rw [Rose.settledAll_eq_map]
  refine pieces_map (Rose.kind_settled options) (fun t ht => ?_) row
  rw [Rose.settled_of_leaf (by rw [ht]; rfl)]

/-- What is trimmed of a row does not matter to a view of it to which it does not matter in a
text. -/
theorem flatMap_trimFirst {β : Type} {trim : List Char → List Char} {f : Rose Node → List β}
    (trimmed : ∀ t, t.kind = .text →
      f (t.withValue (String.ofList (trim t.value.toList))) = f t)
    (empty : ∀ t, t.kind = .text → t.value = "" → f t = []) (row : Row) :
    (trimFirst trim row).flatMap f = row.flatMap f := by
  induction row with
  | nil => rfl
  | cons t ts ih =>
    rw [trimFirst]
    split
    · rename_i htext
      split
      · rename_i hnil
        have hvalue : String.ofList (trim t.value.toList) = "" := by
          rw [List.isEmpty_iff.1 hnil]
        rw [ih, List.flatMap_cons, ← trimmed t htext, hvalue, empty (t.withValue "") htext rfl,
          List.nil_append]
      · rw [List.flatMap_cons, List.flatMap_cons, trimmed t htext]
    · rfl

section Skip

variable (hkeep : SkipsSpace keep)
include hkeep

/-- Trimming a row takes white space away, of which nothing is shown. -/
theorem pieces_trimStart (row : Row) : pieces keep (trimStart row) = pieces keep row := by
  refine flatMap_trimFirst (fun t ht => ?_) (fun t ht hvalue => ?_) row
  · rw [piece_withValue ht, piece_of_text ht, String.toList_ofList, filter_trimStartWhile hkeep]
  · rw [piece_of_text ht, hvalue]
    rfl

/-- The same at the end of the row. -/
theorem pieces_trimEnd (row : Row) : pieces keep (trimEnd row) = pieces keep row := by
  -- the same from the back
  have back : (trimFirst (Text.trimEndWhile isCollapsible) row.reverse).flatMap
      (List.reverse ∘ piece keep) = row.reverse.flatMap (List.reverse ∘ piece keep) := by
    refine flatMap_trimFirst (fun t ht => ?_) (fun t ht hvalue => ?_) row.reverse
    · rw [Function.comp_apply, Function.comp_apply, piece_withValue ht, piece_of_text ht,
        String.toList_ofList, filter_trimEndWhile hkeep]
    · rw [Function.comp_apply, piece_of_text ht, hvalue]
      rfl
  rw [pieces, trimEnd, List.flatMap_reverse, back, List.flatMap_reverse, List.reverse_reverse]
  simp [pieces, Function.comp_def]

/-- A text that is settled loses white space only. Where it is dropped or becomes a space, it was
nothing else. -/
theorem filter_settleText (adjacent : Bool) (value : String) :
    (settleText adjacent value).toList.flatMap (fun s => s.toList.filter keep) =
      value.toList.filter keep := by
  rw [settleText]
  split
  · rename_i hall
    rw [filter_eq_nil_of_all hkeep hall]
    split
    · rfl
    · exact congrArg (· ++ []) (filter_eq_nil_of_all hkeep (s := [' ']) rfl)
  · simp [collapseWhitespace, filter_collapseFrom hkeep]

end Skip

/-- The characters that are kept are no white space, or white space is kept below the parent. -/
def Spared (keep : Char → Bool) (options : Options) (parent : Label) : Prop :=
  SkipsSpace keep ∨ options.isPreformattedLabel parent = true

/-- To settle a tree in its row changes nothing of what it shows. -/
theorem piece_settleOne (spared : Spared keep options parent) (before after : Option Label)
    (t : Rose Node) :
    (settleOne options parent before after t).toList.flatMap (piece keep) = piece keep t := by
  rcases hkind : t.kind with _ | ⟨tag, attributes⟩ | _ | _
  · simp [settleOne, hkind]
  · simp [settleOne, hkind]
  · rw [settleOne_of_text hkind]
    split
    · simp
    · rename_i hparent
      have hkeep := spared.resolve_right hparent
      rw [piece_of_text hkind, ← filter_settleText hkeep (besideBlock options before after) t.value]
      cases settleText (besideBlock options before after) t.value with
      | none => rfl
      | some value => simp [piece_withValue hkind]
  · simp [settleOne, hkind, piece]

/-- The same of a row, whatever stands before it. -/
theorem pieces_settleFrom (spared : Spared keep options parent) (row : Row) :
    ∀ before, pieces keep (settleFrom options parent before row) = pieces keep row := by
  induction row with
  | nil => exact fun _ => rfl
  | cons t ts ih =>
    intro before
    have one := piece_settleOne spared before (ts.head?.map Rose.kind) t
    rw [settleFrom, pieces_cons, ← one]
    split
    · rename_i t' ht'
      rw [ht', pieces_cons, ih]
      simp
    · rename_i hnone
      rw [hnone, ih]
      rfl

/-- Where white space is kept, nothing is trimmed. -/
theorem isTrimmedLabel_of_preformatted (h : options.isPreformattedLabel parent = true) :
    options.isTrimmedLabel parent = false := by
  rw [Options.isPreformattedLabel] at h
  cases parent <;> simp_all [Label.isElement, Label.name, Options.isTrimmedLabel]

/-- **All that the second pass does to a row** leaves what it shows, either because it shows no
white space or because nothing is done where white space is kept. -/
theorem pieces_settle (spared : Spared keep options parent) (row : Row) :
    pieces keep (settle options parent row) = pieces keep row := by
  rw [settle, pieces_settleFrom spared]
  split
  · rename_i htrim
    rcases spared with hkeep | hparent
    · rw [pieces_trimEnd hkeep, pieces_trimStart hkeep]
    · rw [isTrimmedLabel_of_preformatted hparent] at htrim
      cases htrim
  · rfl

/-- **The pieces are kept**: the elements of a row stay, in their order and each one normalized, and
so do the characters around them. Each step of the passes has its own lemma above, and they follow
here in their order. -/
theorem pieces_normalized (spared : Spared keep options parent) (row : Row) :
    pieces keep (row.normalized options parent) =
      (pieces keep row).map (Sum.map (Rose.normalized options) id) := by
  rw [normalized, pieces_settle spared, pieces_settledAll, pieces_joinTexts, pieces_mergedAll,
    List.map_map, Sum.map_comp_map]
  rfl

/-! ## What is read off the pieces

The views of a row that later results are about. Each of them is a function of the pieces. -/

/-- The elements of a row. -/
def elements (row : Row) : Row :=
  row.filter fun t => t.kind.isElement

/-- The elements of a row are its pieces that are no characters. -/
theorem elements_eq (keep : Char → Bool) (row : Row) :
    elements row = (pieces keep row).filterMap Sum.getLeft? := by
  induction row with
  | nil => rfl
  | cons t ts ih =>
    rw [elements] at ih ⊢
    rw [pieces_cons, List.filterMap_append, ← ih, List.filter_cons, piece]
    rcases t.kind with _ | ⟨tag, attributes⟩ | _ | _ <;>
      simp [Label.isElement, Function.comp_def]

/-- A row without texts shows its elements and nothing else. -/
theorem pieces_of_no_text {row : Row} (h : ∀ r ∈ row, r.kind ≠ .text) :
    pieces keep row = (elements row).map Sum.inl := by
  induction row with
  | nil => rfl
  | cons t ts ih =>
    have rest := ih fun r hr => h r (List.mem_cons_of_mem t hr)
    rw [elements] at rest ⊢
    rw [pieces_cons, rest, List.filter_cons, piece]
    rcases hkind : t.kind with _ | ⟨tag, attributes⟩ | _ | _
    · rfl
    · rfl
    · exact absurd hkind (h t List.mem_cons_self)
    · rfl

/-- The elements are left, each one normalized. -/
theorem elements_normalized (options : Options) (parent : Label) (row : Row) :
    elements (row.normalized options parent) = (elements row).map (Rose.normalized options) := by
  rw [elements_eq isSolid, elements_eq isSolid, pieces_normalized (Or.inl skipsSpace_isSolid),
    List.filterMap_map, List.map_filterMap]
  refine List.filterMap_congr fun piece _ => ?_
  cases piece <;> rfl

/-- The text of a row without markup, of which only some characters are looked at. -/
theorem toList_gatherTexts (keep : Char → Bool) (row : Row) :
    (Node.gatherTexts row).toList.filter keep =
      (pieces keep row).flatMap
        (Sum.elim (fun r => (Node.gatherText r).toList.filter keep) fun c => [c]) := by
  induction row with
  | nil => rfl
  | cons t ts ih =>
    have one : (Node.gatherText t).toList.filter keep = (piece keep t).flatMap
        (Sum.elim (fun r => (Node.gatherText r).toList.filter keep) fun c => [c]) := by
      obtain ⟨n, children⟩ := t
      rw [piece, Rose.kind, Rose.label]
      rcases hlabel : n.label with _ | ⟨tag, attributes⟩ | _ | _
      · simp [Node.gatherText, hlabel]
      · simp
      · rw [Node.gatherText_of_text hlabel, List.flatMap_map]
        exact (List.flatMap_singleton' _).symm
      · simp [Node.gatherText, hlabel]
    rw [Node.gatherTexts, String.toList_append, List.filter_append, ih, one, pieces_cons,
      List.flatMap_append]

/-- Rows of the same pieces have the same text, if the elements in them have. -/
theorem filter_gatherTexts_of_pieces {f : Rose Node → Rose Node} {row row' : Row}
    (same : pieces keep row' = (pieces keep row).map (Sum.map f id))
    (ih : ∀ r ∈ elements row, (Node.gatherText (f r)).toList.filter keep =
      (Node.gatherText r).toList.filter keep) :
    (Node.gatherTexts row').toList.filter keep = (Node.gatherTexts row).toList.filter keep := by
  rw [toList_gatherTexts, toList_gatherTexts, same, List.flatMap_map]
  refine List.flatMap_congr fun piece hpiece => ?_
  cases piece with
  | inl r =>
    refine ih r ?_
    rw [elements_eq keep]
    exact List.mem_filterMap.2 ⟨_, hpiece, rfl⟩
  | inr c => rfl

/-- What stands before, between and after the elements. -/
def stretches {α : Type} : List (α ⊕ Char) → List (List Char)
  | [] => [[]]
  | .inl _ :: ps => [] :: stretches ps
  | .inr c :: ps => (stretches ps).modifyHead (c :: ·)

/-- Characters at the front belong to the first stretch. -/
theorem stretches_append {α : Type} (cs : List Char) (ps : List (α ⊕ Char)) :
    stretches (cs.map Sum.inr ++ ps) = (stretches ps).modifyHead (cs ++ ·) := by
  induction cs with
  | nil => exact (congrFun List.modifyHead_id (stretches ps)).symm
  | cons c cs ih =>
    rw [List.map_cons, List.cons_append, stretches, ih, List.modifyHead_modifyHead]
    rfl

/-- What the elements are does not matter to the texts between them. -/
theorem stretches_map {α β : Type} (f : α → β) (ps : List (α ⊕ Char)) :
    stretches (ps.map (Sum.map f id)) = stretches ps := by
  induction ps with
  | nil => rfl
  | cons p ps ih => cases p <;> simp [stretches, ih]

end Row

end Tagdown
