import Tagdown.Proofs.Conversion.Failure
import Tagdown.Proofs.Conversion.Leavings
import Tagdown.Proofs.Document.OutlineText
import Tagdown.Proofs.Normalize.Idempotence
import Tagdown.Proofs.Rule.Bundled

/-!
# Lists in lists

The rule for an item indents what is in it, the rule for a list puts a new line before it if it
stands in an item, and neither knows how deep it is. That all lines come out as deep as they should
is shown from the inside out: an item leaves its lines if the pieces in it leave theirs
(`Converter.left_item`), and so what is left of a list in an item are its lines
(`Converter.left_piece`).

The list in the whole is converted to its lines (`Converter.convertTree_lines`). Where each item is
a text with lists after it, these are one for each item with nothing else on it
(`Converter.convertTree_entries`). A list puts no new line after it, and so a text that comes after
a list is on the last line of that list (`Converter.convertTree_pieces`).
-/

namespace Tagdown

open Rule (asBlock indentLines_eq toList_asBlock)
open Text (isFilled lines mapChars tidy)

/-! ## What is left of an outline

By induction on the piece. The item is the step where something happens: the lines of what is in
it come one level deeper, but for the first one, which has the marker. -/

namespace Converter

open Tagdown.Tree (root)
open Piece (content itemLines itemRoses listTag placeAll)
open Line (ended joined)

variable {N : Tree} {left : NodeId → List String} {x p : NodeId} {l r : List NodeId}

/-- The item of a list has the marker that its line begins with. -/
theorem itemMarker_eq {n q : NodeRef} (hq : n.parent? = some q) {ordered : Bool}
    (htag : q.tagName = listTag ordered) :
    Rule.itemMarker n = (Line.ofItem ordered n.elementIndex []).marker := by
  rw [Rule.itemMarker, hq]
  dsimp only
  rw [htag]
  cases ordered with
  | false => exact if_neg (by decide)
  | true => exact if_pos (by decide)

section Leavings

variable (clean : N.Clean) (yields : standard.Yields N left)
include clean yields

/-- **An item** leaves its lines, if its pieces leave what they are to leave. The marker goes before
the first line, and four spaces before each of the others, which makes the lines of the item. -/
theorem left_item (hx : N.Below root x) {attributes : List Attribute} {phrase : Phrase}
    {rest : List Piece} (outlines : ∀ piece ∈ Piece.text phrase :: rest, piece.IsOutline)
    (hcontents : N.contents x =
      Rose.ofElement "li" attributes ((Piece.text phrase :: rest).map Piece.toRose))
    (inside : ∀ y ∈ N.children x, ∀ piece ∈ Piece.text phrase :: rest,
      N.contents y = piece.toRose → (String.join (left y)).toList = piece.content)
    {ordered : Bool} (htag : N.tagName p = listTag ordered) (hsplit : N.children p = l ++ x :: r)
    (elements : ∀ y ∈ l, N.isElement y = true) :
    (String.join (left x)).toList =
      ended (placeAll [.ofItem ordered (l.length + 1) []] (Piece.text phrase :: rest)) := by
  have forest := clean.wellFormed.forest
  obtain ⟨xelement, xtag, hrow⟩ := Tree.of_contents_ofElement forest hcontents
  have here : (String.join ((N.children x).flatMap left)).toList =
      (Piece.text phrase :: rest).flatMap content := by
    rw [toList_join_flatMap]
    exact flatMap_eq_of_map_eq hrow inside
  obtain ⟨n, sees, left_eq⟩ := (yields.leftBy hx xelement).eq_of_function
    (by rw [here]; exact Piece.isBlank_content phrase rest) (by rw [xtag]; decide)
    (show Rule.listItem.replacement = .function _ from rfl)
    fun n hn => RuleSet.standard_find?_of_item (hn.trans xtag) _
  -- the marker is read off the half-rewritten tree, where the elements before the item still count
  have marker : (Rule.itemMarker n).toList = joined [.ofItem ordered (l.length + 1) []] := by
    obtain ⟨q, hq, qtag⟩ := sees.exists_parent (forest.parent_of_split hsplit)
    rw [itemMarker_eq hq (qtag.trans htag), sees.elementIndex_of_split forest hsplit elements,
      ← Line.toList_text_ofItem]
    exact List.intercalate_singleton.symm
  have nonempty := Piece.placeAll_ne_nil (Piece.text phrase :: rest)
    (List.cons_ne_nil (Line.ofItem ordered (l.length + 1) []) [])
  -- the content is trimmed, which takes nothing, and then indented
  rw [left_eq, join_singleton, String.toList_append, String.toList_append, Text.toList_mapChars,
    here, Piece.trim_content outlines, indentLines_eq, marker, Line.ended_eq nonempty,
    Piece.joined_placeAll _ outlines (List.cons_ne_nil _ _)]
  rfl

/-- The items of a list leave their lines one after another. -/
theorem flatMap_left_items {ordered : Bool} (hx : N.Below root x)
    (htag : N.tagName x = listTag ordered) {items : List (Item Piece)}
    (starts : ∀ item ∈ items, ∃ phrase rest, item.pieces = .text phrase :: rest)
    (outlines : ∀ item ∈ items, ∀ piece ∈ item.pieces, piece.IsOutline)
    (inside : ∀ item ∈ items, ∀ piece ∈ item.pieces, ∀ y p, N.Below root y → N.parent y = some p →
      N.tagName p = "li" → N.contents y = piece.toRose →
      (String.join (left y)).toList = piece.content) :
    ∀ l r, N.children x = l ++ r → (∀ y ∈ l, N.isElement y = true) →
      r.map N.contents = itemRoses items →
      r.flatMap (fun y => (String.join (left y)).toList) =
        ended (itemLines ordered (l.length + 1) items) := by
  have forest := clean.wellFormed.forest
  -- on the items, with those before them in `l`, since these are what the numbers are counted from
  induction items with
  | nil =>
    intro l r _ _ hrow
    rw [List.map_eq_nil_iff.1 hrow]
    rfl
  | cons item items ih =>
    intro l r hsplit elements hrow
    obtain ⟨y, r, rfl, hy, hrow⟩ := List.map_eq_cons_iff.1 hrow
    obtain ⟨⟨phrase, rest, heq⟩, starts⟩ := List.forall_mem_cons.1 starts
    obtain ⟨outline, outlines⟩ := List.forall_mem_cons.1 outlines
    obtain ⟨here, others⟩ := List.forall_mem_cons.1 inside
    have ybelow : N.Below root y := hx.trans (forest.below_of_mem (by rw [hsplit]; simp))
    rw [Piece.toRoses_eq_map, heq] at hy
    rw [heq] at outline here
    obtain ⟨yelement, ytag, -⟩ := Tree.of_contents_ofElement forest hy
    have first := left_item clean yields ybelow outline hy
      (fun z hz piece hpiece => here piece hpiece z y (ybelow.trans (forest.below_of_mem hz))
        (forest.mem_iff.1 hz) ytag) htag hsplit elements
    have next := ih starts outlines others (l ++ [y]) r (by rw [hsplit]; simp)
      (List.forall_mem_append.2 ⟨elements, List.forall_mem_singleton.2 yelement⟩) hrow
    rw [List.flatMap_cons, first, next, itemLines, Line.ended_append, heq, List.length_append,
      List.length_singleton]

/-- A list leaves its lines, on a new line in an item and as a block elsewhere. -/
theorem left_list (hx : N.Below root x) {ordered : Bool} {attributes : List Attribute}
    {items : List (Item Piece)} (outline : (Piece.list ordered attributes items).IsOutline)
    (hcontents : N.contents x = (Piece.list ordered attributes items).toRose)
    (inside : ∀ item ∈ items, ∀ piece ∈ item.pieces, ∀ y p, N.Below root y → N.parent y = some p →
      N.tagName p = "li" → N.contents y = piece.toRose →
      (String.join (left y)).toList = piece.content) :
    ∃ n, Sees N left x n ∧ left x =
      [if n.parent?.any fun q => q.tagName == "li"
        then "\n" ++ String.ofList (joined (itemLines ordered 1 items))
        else asBlock (String.ofList (joined (itemLines ordered 1 items)))] := by
  have forest := clean.wellFormed.forest
  obtain ⟨xelement, xtag, hrow⟩ := Tree.of_contents_ofElement forest hcontents
  have nonempty : itemLines ordered 1 items ≠ [] := outline.lines_ne_nil rfl
  have full : ∀ line ∈ itemLines ordered 1 items, line.phrases ≠ [] := outline.full _
  obtain ⟨-, starts, -, below⟩ := Piece.isOutline_list.1 outline
  -- what the rule is given ends with a newline, which it trims
  have here : (String.join ((N.children x).flatMap left)).toList =
      ended (itemLines ordered 1 items) := by
    rw [toList_join_flatMap]
    exact flatMap_left_items clean yields hx xtag starts below inside [] _ rfl
      (List.forall_mem_nil _) hrow
  have htag : N.tagName x = "ul" ∨ N.tagName x = "ol" := by
    rw [xtag]
    cases ordered
    · exact Or.inl rfl
    · exact Or.inr rfl
  obtain ⟨n, sees, left_eq⟩ := (yields.leftBy hx xelement).eq_of_function
    (by rw [here]; exact Line.isBlank_ended nonempty full)
    (by rcases htag with htag | htag <;> rw [htag] <;> decide)
    (show Rule.list.replacement = .function _ from rfl)
    fun n hn => RuleSet.standard_find?_of_list (by rw [hn]; exact htag) _
  refine ⟨n, sees, ?_⟩
  rw [left_eq, mapChars, here, Line.trimEndWhile_ended nonempty full]

/-- **What is left of a piece in an item.** By induction on the piece. A list in an item begins with
a new line, and a text does not. -/
theorem left_piece (piece : Piece) : ∀ x p, piece.IsOutline → N.Below root x →
    N.parent x = some p → N.tagName p = "li" → N.contents x = piece.toRose →
      (String.join (left x)).toList = piece.content := by
  induction piece using Piece.induction with
  | text phrase =>
    intro x p _ hx _ _ hcontents
    rw [yields.left_text hx hcontents, join_singleton, Piece.content]
  | list ordered attributes items ih =>
    intro x p outline hx hp htag hcontents
    have inside : ∀ item ∈ items, ∀ piece ∈ item.pieces, ∀ y p, N.Below root y →
        N.parent y = some p → N.tagName p = "li" → N.contents y = piece.toRose →
        (String.join (left y)).toList = piece.content := by
      obtain ⟨-, -, -, below⟩ := Piece.isOutline_list.1 outline
      exact fun item hitem piece hpiece y p =>
        ih item hitem piece hpiece y p (below item hitem piece hpiece)
    obtain ⟨n, sees, left_eq⟩ := left_list clean yields hx outline hcontents inside
    rw [left_eq, sees.parent_any hp, htag, if_pos (by decide), join_singleton, String.toList_append]
    exact congrArg ('\n' :: ·) String.toList_ofList

end Leavings

/-! ## Converting an outline

Three results about the same lines: what they are, that they are the entries where texts come
first, and what is on them in general. -/

section Convert

variable {t : Tree} {list : Piece}

/-- **A list is converted to its lines.** The blank lines that the rule puts around the list are
trimmed in the end, and no other line is blank. -/
theorem convertTree_lines (h : t.WellFormed) (bare : t.LeavesBare root)
    (hlist : list.text? = none)
    (hcontents : (t.contents root).merged = .node { label := .document } [list.toRose])
    (outline : list.IsOutline) :
    standard.convertTree t = .ok ("\n".intercalate (list.lines.map Line.text)) := by
  obtain _ | ⟨ordered, attributes, items⟩ := list
  · cases hlist
  obtain ⟨markdown, hmarkdown⟩ := exists_markdown_standard h
  obtain ⟨left, yields, rfl⟩ := exists_leavings h bare rfl hmarkdown
  have clean := Tree.clean_normalize h bare {}
  have forest := clean.wellFormed.forest
  have contents := Tree.contents_normalize_of_normal h hcontents
    (Rose.everywhere_normal_singleton (Row.normal_element rfl) (outline.normal {}))
  obtain ⟨hroot, hrow⟩ := Tree.of_contents_inner forest contents rfl
  obtain ⟨x, hchildren, hx⟩ := List.map_eq_singleton_iff.1 hrow
  have hp := forest.parent_of_split (l := []) hchildren
  obtain ⟨-, -, -, below⟩ := Piece.isOutline_list.1 outline
  obtain ⟨n, sees, left_eq⟩ := left_list clean yields (forest.below_of_mem (forest.mem_iff.2 hp))
    outline hx fun item hitem piece hpiece y p =>
      left_piece clean yields piece y p (below item hitem piece hpiece)
  have outside : (n.parent?.any fun q => q.tagName == "li") = false := by
    rw [sees.parent_any hp, Tree.tagName, hroot]
    decide
  -- the final form takes the blank lines around the block and nothing else
  have nonempty := outline.lines_ne_nil rfl
  have full := outline.full _
  have solid : joined (Piece.list ordered attributes items).lines ≠ [] := by
    obtain ⟨rest, c, heq, -⟩ := Line.exists_joined_concat nonempty full
    rw [heq]
    exact List.append_ne_nil_of_right_ne_nil rest (List.cons_ne_nil c [])
  have filled : ∀ l ∈ lines (joined (Piece.list ordered attributes items).lines),
      isFilled l = true := by
    rw [Line.lines_joined nonempty, List.forall_mem_map]
    exact fun line _ => line.isFilled_text
  have tidied := (Text.tidy_block (Line.ends_joined nonempty full) solid
    (Line.starts_joined _)).trans
      (Text.collapseBlankLines_eq_self (Text.newlinesMeet_of_lines filled))
  refine hmarkdown.trans (congrArg Except.ok ?_)
  show mapChars tidy (String.join (((t.normalize {}).children root).flatMap left)) = _
  rw [hchildren, List.flatMap_singleton, left_eq, outside, if_neg Bool.false_ne_true,
    join_singleton, mapChars, toList_asBlock, String.toList_ofList, ← Line.ofList_joined]
  exact congrArg String.ofList tidied

/-- **Lists in lists.** Where each item is a text with lists after it, there is one line for each
item, in the order of the document, with four spaces for each item around it, its marker and its
text. -/
theorem convertTree_entries (h : t.WellFormed) (bare : t.LeavesBare root)
    (hlist : list.text? = none)
    (hcontents : (t.contents root).merged = .node { label := .document } [list.toRose])
    (outline : list.IsOutline) (lead : list.TextsLead) :
    standard.convertTree t = .ok ("\n".intercalate (list.entries.map Line.text)) := by
  rw [convertTree_lines h bare hlist hcontents outline, outline.lines_eq_entries _ lead]

/-- A plan with numbered steps. -/
def plan : Tree :=
  Tree.empty.run
    [.createElement "ul" [], .append root ⟨1⟩, .createElement "li" [], .append ⟨1⟩ ⟨2⟩,
     .createText "first day", .append ⟨2⟩ ⟨3⟩, .createElement "ol" [], .append ⟨2⟩ ⟨4⟩,
     .createElement "li" [], .append ⟨4⟩ ⟨5⟩, .createText "get up", .append ⟨5⟩ ⟨6⟩,
     .createElement "li" [], .append ⟨4⟩ ⟨7⟩, .createText "go", .append ⟨7⟩ ⟨8⟩,
     .createElement "li" [], .append ⟨1⟩ ⟨9⟩, .createText "rest", .append ⟨9⟩ ⟨10⟩]

theorem convertTree_entries_plan :
    plan.WellFormed ∧ plan.LeavesBare root ∧ standard.convertTree plan =
      .ok "*   first day\n    1.  get up\n    2.  go\n*   rest" := by
  have h : plan.WellFormed := Tree.WellFormed.run _ Tree.wellFormed_empty
    (Tree.allAllowed_of_areAllowed (by decide +kernel))
  have bare : plan.LeavesBare root := Tree.leavesBare_of_forall_lt _ (by decide +kernel)
  let steps : Piece := .list true []
    [⟨[], [.text ⟨["get", "up"], by decide, by decide⟩]⟩,
     ⟨[], [.text ⟨["go"], by decide, by decide⟩]⟩]
  let days : Piece := .list false []
    [⟨[], [.text ⟨["first", "day"], by decide, by decide⟩, steps]⟩,
     ⟨[], [.text ⟨["rest"], by decide, by decide⟩]⟩]
  have contents : (plan.contents root).merged =
      .node { label := .document } [days.toRose] := by decide +kernel
  have outline : days.IsOutline := by simp [days, steps, Piece.text?]
  have lead : days.TextsLead := by simp [days, steps, Piece.text?]
  refine ⟨h, bare, (convertTree_entries h bare rfl contents outline lead).trans ?_⟩
  exact congrArg Except.ok (by decide +kernel)

/-- **What stands on one line.** Texts and lists in an item may follow each other in any order. Each
item begins a line, and no other line is begun; all texts are on the lines, in the order of the
document. There is one on each line just if no text comes after a list. -/
theorem convertTree_pieces (h : t.WellFormed) (bare : t.LeavesBare root)
    (hlist : list.text? = none)
    (hcontents : (t.contents root).merged = .node { label := .document } [list.toRose])
    (outline : list.IsOutline) :
    ∃ m, standard.convertTree t = .ok m ∧
      lines m.toList = list.lines.map (·.text.toList) ∧
      list.lines.map Line.head = list.entries.map Line.head ∧
      list.lines.flatMap Line.phrases = list.phrases ∧
      (∀ line ∈ list.lines, line.phrases ≠ []) ∧
      ((∀ line ∈ list.lines, line.phrases.length = 1) ↔ list.TextsLead) := by
  have full := outline.full
  refine ⟨_, convertTree_lines h bare hlist hcontents outline, ?_, list.map_head_lines,
    list.flatMap_phrases_lines hlist, full, ?_⟩
  · rw [← Line.ofList_joined, String.toList_ofList, Line.lines_joined (outline.lines_ne_nil hlist)]
  · rw [← not_iff_not, ← outline.crowded_lines_iff, Line.Crowded]
    push Not
    refine exists_congr fun line => and_congr_right fun hline => ?_
    have := List.length_pos_of_ne_nil (full line hline)
    omega

/-- A numbered step with a list between two texts, and another list after them. -/
def recipe : Tree :=
  Tree.empty.run
    [.createElement "ol" [], .append root ⟨1⟩, .createElement "li" [], .append ⟨1⟩ ⟨2⟩,
     .createText "mix", .append ⟨2⟩ ⟨3⟩, .createElement "ul" [], .append ⟨2⟩ ⟨4⟩,
     .createElement "li" [], .append ⟨4⟩ ⟨5⟩, .createText "flour", .append ⟨5⟩ ⟨6⟩,
     .createText "well", .append ⟨2⟩ ⟨7⟩, .createElement "ul" [], .append ⟨2⟩ ⟨8⟩,
     .createElement "li" [], .append ⟨8⟩ ⟨9⟩, .createText "by hand", .append ⟨9⟩ ⟨10⟩]

theorem convertTree_pieces_recipe :
    recipe.WellFormed ∧ recipe.LeavesBare root ∧ ∃ m, standard.convertTree recipe = .ok m ∧
      lines m.toList =
        ["1.  mix".toList, "    *   flourwell".toList, "    *   by hand".toList] := by
  have h : recipe.WellFormed := Tree.WellFormed.run _ Tree.wellFormed_empty
    (Tree.allAllowed_of_areAllowed (by decide +kernel))
  have bare : recipe.LeavesBare root := Tree.leavesBare_of_forall_lt _ (by decide +kernel)
  let flour : Piece := .list false [] [⟨[], [.text ⟨["flour"], by decide, by decide⟩]⟩]
  let hand : Piece := .list false [] [⟨[], [.text ⟨["by", "hand"], by decide, by decide⟩]⟩]
  let steps : Piece := .list true []
    [⟨[], [.text ⟨["mix"], by decide, by decide⟩, flour, .text ⟨["well"], by decide, by decide⟩,
      hand]⟩]
  have contents : (recipe.contents root).merged =
      .node { label := .document } [steps.toRose] := by decide +kernel
  have outline : steps.IsOutline := by simp [steps, flour, hand, Piece.text?]
  obtain ⟨m, converted, hlines, -⟩ := convertTree_pieces h bare rfl contents outline
  exact ⟨h, bare, m, converted, hlines.trans (by decide +kernel)⟩

/-- An item with a list between two texts. -/
def interrupted : Tree :=
  Tree.empty.run
    [.createElement "ul" [], .append root ⟨1⟩, .createElement "li" [], .append ⟨1⟩ ⟨2⟩,
     .createText "A", .append ⟨2⟩ ⟨3⟩, .createElement "ul" [], .append ⟨2⟩ ⟨4⟩,
     .createElement "li" [], .append ⟨4⟩ ⟨5⟩, .createText "B", .append ⟨5⟩ ⟨6⟩,
     .createText "C", .append ⟨2⟩ ⟨7⟩]

/-- The second text is on the line of the nested item and on no other. -/
theorem mem_lines_interrupted :
    interrupted.WellFormed ∧ interrupted.LeavesBare root ∧
      standard.convertTree interrupted = .ok "*   A\n    *   BC" ∧
      'C' ∈ "*   A\n    *   BC".toList ∧
      ∀ line ∈ lines "*   A\n    *   BC".toList, 'C' ∈ line → 'B' ∈ line := by
  have h : interrupted.WellFormed := Tree.WellFormed.run _ Tree.wellFormed_empty
    (Tree.allAllowed_of_areAllowed (by decide +kernel))
  have bare : interrupted.LeavesBare root := Tree.leavesBare_of_forall_lt _ (by decide +kernel)
  let inner : Piece := .list false [] [⟨[], [.text ⟨["B"], by decide, by decide⟩]⟩]
  let outer : Piece := .list false []
    [⟨[], [.text ⟨["A"], by decide, by decide⟩, inner, .text ⟨["C"], by decide, by decide⟩]⟩]
  have contents : (interrupted.contents root).merged =
      .node { label := .document } [outer.toRose] := by decide +kernel
  have outline : outer.IsOutline := by simp [outer, inner, Piece.text?]
  refine ⟨h, bare, (convertTree_lines h bare rfl contents outline).trans ?_, by decide, by decide⟩
  exact congrArg Except.ok (by decide +kernel)

end Convert

end Converter

end Tagdown
