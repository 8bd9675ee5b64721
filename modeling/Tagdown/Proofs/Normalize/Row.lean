import Mathlib.Data.List.Chain
import Tagdown.Normalize
import Tagdown.Proofs.Document.Contents

/-!
# Normalization, row by row

What normalization makes of a document can be said by recursion on its contents, without arena and
without links. All that happens to the children of one node depends on these alone, and happens to
the whole row of them:

* the comments go, and each run of texts becomes one text (`Rose.merged`);
* in a second pass, white space goes from the ends of a block (`Row.trimEnds`), and then each text
  becomes what it is to be between its two neighbours (`Row.settleFrom`), which is all of
  `Rose.settled`.

Both passes begin with the last rows and end with the row below the root. The order does not matter,
since a pass never changes the kind of a node.
-/

namespace Tagdown

open Text (isCollapsible)

/-- Siblings, each with all that is below it. -/
abbrev Row := List (Rose Node)

/-! ## Kinds of nodes -/

namespace Options

/-- A node of this kind is an element that stands as a block. -/
def isBlockLabel (options : Options) (label : Label) : Bool :=
  label.isElement && options.isBlock label.name

/-- A node of this kind is an element whose white space is kept. -/
def isPreformattedLabel (options : Options) (label : Label) : Bool :=
  label.isElement && options.isPreformatted label.name

/-- The content of a node of this kind is trimmed. -/
def isTrimmedLabel (options : Options) : Label → Bool
  | .document => true
  | .element tag _ => options.isBlock tag && !options.isPreformatted tag
  | .text => false
  | .comment => false

end Options

/-! ## One row

All functions here read the kinds and the values of the trees in a row and nothing that is below
them. -/

namespace Row

/-- Put a tree before a row. Two texts that meet become one. -/
def consText (t : Rose Node) : Row → Row
  | [] => [t]
  | u :: us =>
    if t.kind = .text ∧ u.kind = .text then t.withValue (t.value ++ u.value) :: us
    else t :: u :: us

/-- Every run of texts made one. -/
def joinTexts (row : Row) : Row :=
  row.foldr consText []

/-- Trim the text that a row begins with. A text that is left empty goes, and the next one is
trimmed. -/
def trimFirst (trim : List Char → List Char) : Row → Row
  | [] => []
  | t :: ts =>
    if t.kind = .text then
      if (trim t.value.toList).isEmpty then trimFirst trim ts
      else t.withValue (String.ofList (trim t.value.toList)) :: ts
    else t :: ts

/-- White space gone from the start of a row. -/
def trimStart (row : Row) : Row :=
  trimFirst (Text.trimStartWhile isCollapsible) row

/-- White space gone from the end of a row. -/
def trimEnd (row : Row) : Row :=
  (trimFirst (Text.trimEndWhile isCollapsible) row.reverse).reverse

/-- What a text becomes: nothing, if it is white space next to a block. -/
def settleText (adjacent : Bool) (value : String) : Option String :=
  if value.toList.all isCollapsible then if adjacent then none else some " "
  else some (String.ofList (collapseWhitespace value.toList))

/-- One of the two neighbours stands as a block. -/
def besideBlock (options : Options) (before after : Option Label) : Bool :=
  before.any options.isBlockLabel || after.any options.isBlockLabel

/-- What a tree becomes below a node of the kind `parent`, between its two neighbours. -/
def settleOne (options : Options) (parent : Label) (before after : Option Label) (t : Rose Node) :
    Option (Rose Node) :=
  match t.kind with
  | .text =>
    if options.isPreformattedLabel parent then some t
    else (settleText (besideBlock options before after) t.value).map t.withValue
  | .comment => none
  | .document => some t
  | .element _ _ => some t

/-- What a row becomes after a sibling of the kind `before`. -/
def settleFrom (options : Options) (parent : Label) : Option Label → Row → Row
  | _, [] => []
  | before, t :: ts =>
    match settleOne options parent before (ts.head?.map Rose.kind) t with
    | some t' => t' :: settleFrom options parent (some t.kind) ts
    | none => settleFrom options parent before ts

/-- What the row below a node of the kind `parent` becomes. -/
def settle (options : Options) (parent : Label) (row : Row) : Row :=
  settleFrom options parent none
    (if options.isTrimmedLabel parent then trimEnd (trimStart row) else row)

end Row

/-! ## All rows

The functions on rows, put to work in every row of a document. Leaves are left out, since nothing
that stands below one of them is ever shown. -/

namespace Rose

mutual

/-- The document without comments, and with every run of texts made one. -/
def merged : Rose Node → Rose Node
  | .node n children => .node n (Row.joinTexts (mergedAll children))

/-- What is left of a row without comments, with all runs below it made one. -/
def mergedAll : Row → Row
  | [] => []
  | t :: ts => if t.kind = .comment then mergedAll ts else merged t :: mergedAll ts

end

mutual

/-- The document with its white space as a browser shows it, if texts were merged before. -/
def settled (options : Options) : Rose Node → Rose Node
  | .node n children =>
    if n.label.isLeaf then .node n children
    else .node n (Row.settle options n.label (settledAll options children))

/-- `settled` of each tree of a row. -/
def settledAll (options : Options) : Row → Row
  | [] => []
  | t :: ts => settled options t :: settledAll options ts

end

/-- The trees of a row are settled independently; it is only then that neighbours count. -/
theorem settledAll_eq_map (options : Options) (row : Row) :
    settledAll options row = row.map (settled options) := by
  induction row with
  | nil => rw [settledAll, List.map_nil]
  | cons t ts ih => rw [settledAll, List.map_cons, ih]

/-- Merging changes what is below a node and what its text is, never what kind of node it is. -/
@[simp] theorem kind_merged (r : Rose Node) : r.merged.kind = r.kind := by
  cases r
  rw [merged]
  rfl

/-- The same for settling, so the neighbours of a text can be looked at before or after. -/
@[simp] theorem kind_settled (options : Options) (r : Rose Node) :
    (r.settled options).kind = r.kind := by
  cases r
  rw [settled]
  split <;> rfl

theorem merged_of_leaf (n : Node) : merged (.node n []) = .node n [] := by
  rw [merged, mergedAll]
  rfl

/-- Below a leaf there is nothing to be shown, and it is left as it is. -/
theorem settled_of_leaf {options : Options} {r : Rose Node} (h : r.kind.isLeaf = true) :
    r.settled options = r := by
  obtain ⟨n, children⟩ := r
  rw [settled, if_pos (show n.label.isLeaf = true from h)]

/-- A text with a new value is a text. -/
theorem settled_withValue {options : Options} {r : Rose Node} (h : r.kind = .text)
    (value : String) : (r.withValue value).settled options = r.withValue value :=
  settled_of_leaf (by rw [kind_withValue, h]; rfl)

end Rose

namespace Row

/-! ## Joining

Comments are gone when texts are joined, so that two texts next to each other in the row are next
to each other for a reader. -/

/-- Joined from the right: the first is put before what the others have become. -/
theorem joinTexts_cons (t : Rose Node) (row : Row) :
    joinTexts (t :: row) = consText t (joinTexts row) := rfl

/-- To put two texts before a row is to put the text before it that the two are together. -/
theorem consText_consText {t u : Rose Node} (ht : t.kind = .text) (hu : u.kind = .text)
    (row : Row) :
    consText t (consText u row) = consText (t.withValue (t.value ++ u.value)) row := by
  cases row with
  | nil => exact if_pos ⟨ht, hu⟩
  | cons v vs =>
    by_cases hv : v.kind = .text
    · rw [consText, if_pos ⟨hu, hv⟩, consText, if_pos ⟨ht, hu⟩, consText, if_pos ⟨ht, hv⟩,
        Rose.value_withValue, Rose.value_withValue, String.append_assoc]
      rfl
    · rw [consText, if_neg (by simp [hv]), consText, if_pos ⟨ht, hu⟩, consText,
        if_neg (by simp [hv])]

/-- Two texts next to each other may be made one before all others are. -/
theorem joinTexts_merge {t u : Rose Node} (ht : t.kind = .text) (hu : u.kind = .text) (l r : Row) :
    joinTexts (l ++ t :: u :: r) = joinTexts (l ++ t.withValue (t.value ++ u.value) :: r) := by
  rw [joinTexts, joinTexts, List.foldr_append, List.foldr_append, List.foldr_cons, List.foldr_cons,
    List.foldr_cons, consText_consText ht hu]

/-- Nothing but a text is made by joining, so elements are those that were there. -/
theorem mem_consText {t u : Rose Node} {row : Row} (h : u ∈ consText t row) :
    u = t ∨ u ∈ row ∨ u.kind = .text := by
  cases row with
  | nil => exact Or.inl (List.mem_singleton.1 h)
  | cons v vs =>
    rw [consText] at h
    split at h
    · rename_i htexts
      rcases List.mem_cons.1 h with rfl | h
      · exact Or.inr (Or.inr htexts.1)
      · exact Or.inr (Or.inl (List.mem_cons_of_mem v h))
    · exact (List.mem_cons.1 h).imp_right Or.inl

/-- What is in the row then was in it before, or is a text. -/
theorem mem_joinTexts {u : Rose Node} {row : Row} (h : u ∈ joinTexts row) :
    u ∈ row ∨ u.kind = .text := by
  induction row with
  | nil => cases h
  | cons t ts ih =>
    rcases mem_consText h with rfl | h | h
    · exact Or.inl List.mem_cons_self
    · exact (ih h).imp_left (List.mem_cons_of_mem t)
    · exact Or.inr h

/-! ## Trimming

Trimming a row takes texts from its ends until one is left that has anything but white space in
it, or until something else than a text stands there. -/

/-- Trimming makes new texts of old ones, and otherwise only takes away. -/
theorem mem_trimFirst {trim : List Char → List Char} {u : Rose Node} {row : Row}
    (h : u ∈ trimFirst trim row) : u ∈ row ∨ u.kind = .text := by
  induction row with
  | nil => cases h
  | cons t ts ih =>
    rw [trimFirst] at h
    split at h
    · rename_i htext
      split at h
      · exact (ih h).imp_left (List.mem_cons_of_mem t)
      · rcases List.mem_cons.1 h with rfl | h
        · exact Or.inr htext
        · exact Or.inl (List.mem_cons_of_mem t h)
    · exact Or.inl h

/-- To trim a row is the same before and after the rows below it are settled. -/
theorem trimFirst_map_settled (options : Options) (trim : List Char → List Char) (row : Row) :
    trimFirst trim (row.map (Rose.settled options)) =
      (trimFirst trim row).map (Rose.settled options) := by
  induction row with
  | nil => rfl
  | cons t ts ih =>
    by_cases htext : t.kind = .text
    · have hsame : t.settled options = t := Rose.settled_of_leaf (by rw [htext]; rfl)
      rw [List.map_cons, hsame, trimFirst, trimFirst, if_pos htext, if_pos htext]
      split
      · exact ih
      · rw [List.map_cons, Rose.settled_withValue htext]
    · rw [List.map_cons, trimFirst, trimFirst, if_neg htext, if_neg (by simpa using htext),
        List.map_cons]

/-- Trimming looks at the texts of a row, and these are the trees that settling leaves alone. -/
theorem trimStart_map_settled (options : Options) (row : Row) :
    trimStart (row.map (Rose.settled options)) = (trimStart row).map (Rose.settled options) :=
  trimFirst_map_settled options _ row

theorem trimEnd_map_settled (options : Options) (row : Row) :
    trimEnd (row.map (Rose.settled options)) = (trimEnd row).map (Rose.settled options) := by
  rw [trimEnd, trimEnd, ← List.map_reverse, trimFirst_map_settled, List.map_reverse]

/-! ## Settling

What a tree becomes in its row is the tree itself, the same text with another value, or nothing. -/

/-- An element is kept in its row whatever its neighbours are. -/
theorem settleOne_of_not_leaf {options : Options} {parent : Label} {before after : Option Label}
    {t : Rose Node} (h : t.kind.isLeaf = false) :
    settleOne options parent before after t = some t := by
  rw [settleOne]
  cases hkind : t.kind <;> simp_all [Label.isLeaf]

/-- For a text it is the parent that decides whether white space counts, and then the
neighbours. -/
theorem settleOne_of_text {options : Options} {parent : Label} {before after : Option Label}
    {t : Rose Node} (h : t.kind = .text) :
    settleOne options parent before after t =
      if options.isPreformattedLabel parent then some t
      else (settleText (besideBlock options before after) t.value).map t.withValue := by
  rw [settleOne, h]

/-- What a tree becomes is the tree itself, or a text with another value. -/
theorem cases_settleOne {options : Options} {parent : Label} {before after : Option Label}
    {t u : Rose Node} (h : settleOne options parent before after t = some u) :
    u = t ∨ (t.kind = .text ∧ ∃ value, u = t.withValue value) := by
  rw [settleOne] at h
  split at h
  · rename_i htext
    split at h
    · exact Or.inl (Option.some.inj h).symm
    · obtain ⟨value, -, rfl⟩ := Option.map_eq_some_iff.1 h
      exact Or.inr ⟨htext, value, rfl⟩
  · cases h
  · exact Or.inl (Option.some.inj h).symm
  · exact Or.inl (Option.some.inj h).symm

/-- What is left of a tree is of the same kind. -/
theorem kind_settleOne {options : Options} {parent : Label} {before after : Option Label}
    {t u : Rose Node} (h : settleOne options parent before after t = some u) : u.kind = t.kind := by
  rcases cases_settleOne h with rfl | ⟨-, value, rfl⟩ <;> rfl

/-- A row after it is settled has its old trees and texts. -/
theorem mem_settleFrom {options : Options} {parent : Label} {u : Rose Node} {row : Row} :
    ∀ {before : Option Label}, u ∈ settleFrom options parent before row →
      u ∈ row ∨ u.kind = .text := by
  induction row with
  | nil =>
    intro before h
    cases h
  | cons t ts ih =>
    intro before h
    rw [settleFrom] at h
    split at h
    · rename_i t' ht'
      rcases List.mem_cons.1 h with rfl | h
      · rcases cases_settleOne ht' with rfl | ⟨htext, value, rfl⟩
        · exact Or.inl List.mem_cons_self
        · exact Or.inr htext
      · exact (ih h).imp_left (List.mem_cons_of_mem t)
    · exact (ih h).imp_left (List.mem_cons_of_mem t)

/-- So has the whole row, trimmed or not. -/
theorem mem_settle {options : Options} {parent : Label} {u : Rose Node} {row : Row}
    (h : u ∈ settle options parent row) : u ∈ row ∨ u.kind = .text := by
  rcases mem_settleFrom h with h | h
  · split at h
    · rw [trimEnd, List.mem_reverse] at h
      rcases mem_trimFirst h with h | h
      · rw [List.mem_reverse] at h
        exact mem_trimFirst h
      · exact Or.inr h
    · exact Or.inl h
  · exact Or.inr h

end Row

end Tagdown
