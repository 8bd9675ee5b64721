import Mathlib.Data.List.ModifyLast
import Tagdown.Proofs.Document.Contents
import Tagdown.Text.Character

/-!
# Lists in lists

A list has items, and an item has texts and other lists in it (`Piece`). As a document it is printed
with a line for each item: `Piece.entries` are the lines that are to be expected where each item is
a text with lists after it.

`Piece.lines` are the lines for items of any kind. What is special about them is that a list begins
a new line and a text does not, so a text goes on in the line that the list before it ends with
(`Line.place`). They are one for each item all the same (`Piece.map_head_lines`). If no text comes
after a list, they are the entries (`Piece.IsOutline.lines_eq_entries`), and else there is one with
more than one text on it (`Piece.IsOutline.crowded_lines_iff`).
-/

namespace Tagdown

open Text (isWhitespace)

/-- Words, with single spaces between them. -/
structure Phrase where
  words : List String
  nonempty : words ≠ []
  solid : ∀ word ∈ words, word ≠ "" ∧ word.toList.any isWhitespace = false

/-- The words as a text. -/
def Phrase.text (phrase : Phrase) : String :=
  " ".intercalate phrase.words

/-- An item of a list, with pieces in it. -/
structure Item (α : Type) where
  attributes : List Attribute
  pieces : List α

/-- What there is in an item. -/
inductive Piece where
  | text (phrase : Phrase)
  | list (ordered : Bool) (attributes : List Attribute) (items : List (Item Piece))

/-- The tag of a list. -/
def Piece.listTag (ordered : Bool) : String :=
  if ordered then "ol" else "ul"

namespace Piece

/-- The phrase, if it is a text. -/
def text? : Piece → Option Phrase
  | text phrase => some phrase
  | list _ _ _ => none

/-- What holds of texts, and of a list if it holds of all pieces in it, holds of each piece. -/
@[elab_as_elim]
theorem induction {P : Piece → Prop} (text : ∀ phrase, P (.text phrase))
    (list : ∀ ordered attributes items, (∀ item ∈ items, ∀ piece ∈ item.pieces, P piece) →
      P (.list ordered attributes items)) (piece : Piece) : P piece :=
  @Piece.rec P (fun items => ∀ item ∈ items, ∀ piece ∈ item.pieces, P piece)
    (fun item => ∀ piece ∈ item.pieces, P piece) (fun pieces => ∀ piece ∈ pieces, P piece)
    text list (List.forall_mem_nil _) (fun _ _ here others => List.forall_mem_cons.2 ⟨here, others⟩)
    (fun _ _ inside => inside) (List.forall_mem_nil _)
    (fun _ _ here others => List.forall_mem_cons.2 ⟨here, others⟩) piece

/-! ## As a document

A list is an `ol` or an `ul` with an `li` for each item. The attributes of all of these may be any,
and so they are kept in the outline and never looked at. -/

mutual

/-- The piece as a part of a document. -/
def toRose : Piece → Rose Node
  | text phrase => .ofText phrase.text
  | list ordered attributes items => .ofElement (listTag ordered) attributes (itemRoses items)

/-- The items of a list as parts of a document. -/
def itemRoses : List (Item Piece) → List (Rose Node)
  | [] => []
  | ⟨attributes, pieces⟩ :: items =>
    .ofElement "li" attributes (toRoses pieces) :: itemRoses items

/-- `toRose` of each piece. -/
def toRoses : List Piece → List (Rose Node)
  | [] => []
  | piece :: pieces => toRose piece :: toRoses pieces

end

theorem toRoses_eq_map (pieces : List Piece) : toRoses pieces = pieces.map toRose := by
  induction pieces with
  | nil => rfl
  | cons piece pieces ih => rw [toRoses, List.map_cons, ih]

/-- Items with their attributes, each over its pieces: the two functions that take turns, said as
two maps. -/
theorem itemRoses_eq_map (items : List (Item Piece)) :
    itemRoses items =
      items.map fun item => .ofElement "li" item.attributes (item.pieces.map toRose) := by
  induction items with
  | nil => rfl
  | cons item items ih => rw [itemRoses, List.map_cons, ih, toRoses_eq_map]

/-- No list is empty, and each item begins with a text and has no two texts next to each other. -/
inductive IsOutline : Piece → Prop where
  | text (phrase : Phrase) : IsOutline (.text phrase)
  | list {ordered : Bool} {attributes : List Attribute} {items : List (Item Piece)}
    (nonempty : items ≠ [])
    (starts : ∀ item ∈ items, ∃ phrase rest, item.pieces = .text phrase :: rest)
    (apart : ∀ item ∈ items, item.pieces.IsChain fun a b => ¬ (a.text?.isSome ∧ b.text?.isSome))
    (below : ∀ item ∈ items, ∀ piece ∈ item.pieces, IsOutline piece) :
    IsOutline (.list ordered attributes items)

/-- In each item only the first piece can be a text. -/
inductive TextsLead : Piece → Prop where
  | text (phrase : Phrase) : TextsLead (.text phrase)
  | list {ordered : Bool} {attributes : List Attribute} {items : List (Item Piece)}
    (lead : ∀ item ∈ items, ∀ piece ∈ item.pieces.tail, piece.text? = none)
    (below : ∀ item ∈ items, ∀ piece ∈ item.pieces, TextsLead piece) :
    TextsLead (.list ordered attributes items)

@[simp] theorem isOutline_text (phrase : Phrase) : (text phrase).IsOutline :=
  .text phrase

/-- What is asked of a list is asked of its items and again of all that is in them. -/
@[simp] theorem isOutline_list {ordered : Bool} {attributes : List Attribute}
    {items : List (Item Piece)} : (list ordered attributes items).IsOutline ↔ items ≠ [] ∧
      (∀ item ∈ items, ∃ phrase rest, item.pieces = .text phrase :: rest) ∧
      (∀ item ∈ items, item.pieces.IsChain fun a b => ¬ (a.text?.isSome ∧ b.text?.isSome)) ∧
      ∀ item ∈ items, ∀ piece ∈ item.pieces, piece.IsOutline :=
  ⟨fun | .list nonempty starts apart below => ⟨nonempty, starts, apart, below⟩,
    fun ⟨nonempty, starts, apart, below⟩ => .list nonempty starts apart below⟩

@[simp] theorem textsLead_text (phrase : Phrase) : (text phrase).TextsLead :=
  .text phrase

/-- Here too the lists inside of items are asked the same. -/
@[simp] theorem textsLead_list {ordered : Bool} {attributes : List Attribute}
    {items : List (Item Piece)} : (list ordered attributes items).TextsLead ↔
      (∀ item ∈ items, ∀ piece ∈ item.pieces.tail, piece.text? = none) ∧
      ∀ item ∈ items, ∀ piece ∈ item.pieces, piece.TextsLead :=
  ⟨fun | .list lead below => ⟨lead, below⟩, fun ⟨lead, below⟩ => .list lead below⟩

mutual

/-- The texts of a piece, in the order of the document. -/
def phrases : Piece → List Phrase
  | text phrase => [phrase]
  | list _ _ items => itemPhrases items

/-- The texts of some items. -/
def itemPhrases : List (Item Piece) → List Phrase
  | [] => []
  | ⟨_, pieces⟩ :: items => allPhrases pieces ++ itemPhrases items

/-- The texts of some pieces. -/
def allPhrases : List Piece → List Phrase
  | [] => []
  | piece :: pieces => phrases piece ++ allPhrases pieces

end

end Piece

/-! ## Lines

A line is kept as a record, with its texts apart, so that what is on a line can be said without
reading it back from characters. -/

/-- A line of a printed list: how deep it stands, the number of its item if that has one, and the
texts that are on it. -/
structure Line where
  depth : Nat
  number? : Option Nat
  phrases : List Phrase

namespace Line

/-- What an item begins with. -/
def marker (line : Line) : String :=
  match line.number? with
  | some n => toString n ++ ".  "
  | none => "*   "

/-- The line as a text, with four spaces for each item that it stands in. -/
def text (line : Line) : String :=
  String.ofList (List.replicate (4 * line.depth) ' ') ++ line.marker ++
    String.join (line.phrases.map Phrase.text)

/-- The line, in one more item. -/
def deeper (line : Line) : Line :=
  { line with depth := line.depth + 1 }

/-- The line with one more text. -/
def add (phrase : Phrase) (line : Line) : Line :=
  { line with phrases := line.phrases ++ [phrase] }

/-- The line that an item begins. -/
def ofItem (ordered : Bool) (n : Nat) (phrases : List Phrase) : Line where
  depth := 0
  number? := if ordered then some n else none
  phrases := phrases

/-- Where the line stands and what it begins with. -/
def head (line : Line) : Nat × Option Nat :=
  (line.depth, line.number?)

/-- Put a piece after the lines of an item: a text goes on in the last line, and `nested`, the lines
of a list, come after it. -/
def place (lines : List Line) (text? : Option Phrase) (nested : List Line) : List Line :=
  match text? with
  | some phrase => lines.modifyLast (add phrase)
  | none => lines ++ nested.map deeper

/-- There is more than one text on one of the lines. -/
def Crowded (lines : List Line) : Prop :=
  ∃ line ∈ lines, 1 < line.phrases.length

/-- Depth is all that changes of a line that is indented. -/
@[simp] theorem phrases_deeper (line : Line) : line.deeper.phrases = line.phrases := rfl

end Line

namespace Piece

open Line (Crowded place)

mutual

/-- The line for each item of a list, and of the lists in it. -/
def entries : Piece → List Line
  | text _ => []
  | list ordered _ items => itemEntries ordered 1 items

/-- The lines for the items of a list that come after `n - 1` others. -/
def itemEntries (ordered : Bool) (n : Nat) : List (Item Piece) → List Line
  | [] => []
  | ⟨_, pieces⟩ :: items =>
    .ofItem ordered n (pieces.filterMap text?) ::
      ((allEntries pieces).map Line.deeper ++ itemEntries ordered (n + 1) items)

/-- The lines for the items of all lists in a row. -/
def allEntries : List Piece → List Line
  | [] => []
  | piece :: pieces => entries piece ++ allEntries pieces

end

mutual

/-- The lines of a list. -/
def lines : Piece → List Line
  | text _ => []
  | list ordered _ items => itemLines ordered 1 items

/-- The lines of the items of a list that come after `n - 1` others. -/
def itemLines (ordered : Bool) (n : Nat) : List (Item Piece) → List Line
  | [] => []
  | ⟨_, pieces⟩ :: items =>
    placeAll [.ofItem ordered n []] pieces ++ itemLines ordered (n + 1) items

/-- Put all pieces after the lines of an item. -/
def placeAll (before : List Line) : List Piece → List Line
  | [] => before
  | piece :: pieces => placeAll (place before piece.text? (lines piece)) pieces

end

variable {pieces : List Piece} {items : List (Item Piece)} {before : List Line} {ordered : Bool}

/-! ## Placing pieces

The lines of an item are made by placing its pieces one after the other below the line that the
item begins. There is always a last line to go on in. -/

/-- What a text is added to is the last line. -/
theorem place_text_concat (front : List Line) (line : Line) (phrase : Phrase)
    (nested : List Line) :
    place (front ++ [line]) (some phrase) nested = front ++ [line.add phrase] :=
  List.modifyLast_concat ..

/-- The lines of a nested list come below those of its item, one level deeper. -/
theorem place_list (before nested : List Line) :
    place before none nested = before ++ nested.map Line.deeper := rfl

/-- An item that begins with a text has it on the line that it begins. -/
theorem placeAll_text_cons (ordered : Bool) (n : Nat) (phrase : Phrase) (pieces : List Piece) :
    placeAll [.ofItem ordered n []] (.text phrase :: pieces) =
      placeAll [.ofItem ordered n [phrase]] pieces := by
  rw [placeAll]
  exact congrArg (placeAll · pieces) (place_text_concat [] _ phrase _)

/-- An item has begun its first line when its pieces come, and a piece takes no line away. -/
theorem place_ne_nil (h : before ≠ []) (phrase? : Option Phrase) (nested : List Line) :
    place before phrase? nested ≠ [] := by
  obtain ⟨front, line, rfl⟩ := List.eq_nil_or_concat' before |>.resolve_left h
  cases phrase? with
  | none => exact List.append_ne_nil_of_left_ne_nil h _
  | some phrase =>
    rw [place_text_concat]
    exact List.concat_ne_nil _ _

/-- The same for all pieces of an item. -/
theorem placeAll_ne_nil (pieces : List Piece) :
    ∀ {before : List Line}, before ≠ [] → placeAll before pieces ≠ [] := by
  induction pieces with
  | nil => exact fun h => h
  | cons piece pieces ih => exact fun h => ih (place_ne_nil h _ _)

/-- Each item begins a line, so a list with an item has a line. -/
theorem itemLines_ne_nil (h : items ≠ []) (ordered : Bool) (n : Nat) :
    itemLines ordered n items ≠ [] := by
  obtain ⟨item, items, rfl⟩ := List.exists_cons_of_ne_nil h
  exact List.append_ne_nil_of_left_ne_nil (placeAll_ne_nil _ (List.cons_ne_nil _ _)) _

/-! ## A line for each item

Of a line only its depth and its marker are looked at here, which no text changes. -/

/-- A text begins no line, and a list begins those of its own items, deeper by one. -/
theorem map_head_place (before : List Line) (piece : Piece)
    (h : piece.lines.map Line.head = piece.entries.map Line.head) :
    (place before piece.text? piece.lines).map Line.head =
      (before ++ piece.entries.map Line.deeper).map Line.head := by
  cases piece with
  | text phrase =>
    rw [show (text phrase).entries = [] from rfl, List.map_nil, List.append_nil]
    rcases List.eq_nil_or_concat' before with rfl | ⟨front, line, rfl⟩
    · rfl
    · rw [text?, place_text_concat, List.map_append, List.map_append]
      rfl
  | list ordered attributes items =>
    have deeper : Line.head ∘ Line.deeper = (fun head => (head.1 + 1, head.2)) ∘ Line.head := rfl
    rw [text?, place_list, List.map_append, List.map_append, List.map_map, List.map_map, deeper,
      ← List.map_map, h, List.map_map]

/-- Over all pieces, by induction on them, with any lines before. -/
theorem map_head_placeAll (pieces : List Piece)
    (h : ∀ piece ∈ pieces, piece.lines.map Line.head = piece.entries.map Line.head) :
    ∀ before, (placeAll before pieces).map Line.head =
      (before ++ (allEntries pieces).map Line.deeper).map Line.head := by
  induction pieces with
  | nil => exact fun before => congrArg (List.map Line.head) (List.append_nil before).symm
  | cons piece pieces ih =>
    intro before
    obtain ⟨here, others⟩ := List.forall_mem_cons.1 h
    rw [placeAll, ih others, List.map_append, map_head_place before piece here, allEntries,
      ← List.map_append, List.append_assoc, ← List.map_append]

/-- **Each item begins a line**, and no other line is begun. By induction on the piece, and on the
items of a list with their numbers. -/
theorem map_head_lines (piece : Piece) :
    piece.lines.map Line.head = piece.entries.map Line.head := by
  induction piece using induction with
  | text phrase => rfl
  | list ordered attributes items ih =>
    have inItems (n : Nat) : (itemLines ordered n items).map Line.head =
        (itemEntries ordered n items).map Line.head := by
      induction items generalizing n with
      | nil => rfl
      | cons item items ih' =>
        obtain ⟨here, others⟩ := List.forall_mem_cons.1 ih
        rw [itemLines, itemEntries, List.map_append, map_head_placeAll item.pieces here,
          ih' others, List.map_cons, List.map_append, List.map_append]
        rfl
    exact inItems 1

/-! ## The texts on the lines

Which line a text is on is not asked here. -/

/-- A piece adds its texts after those that are there, and no text is lost or comes earlier. -/
theorem flatMap_phrases_place (h : before ≠ []) (piece : Piece)
    (nested : piece.text? = none → piece.lines.flatMap Line.phrases = piece.phrases) :
    (place before piece.text? piece.lines).flatMap Line.phrases =
      before.flatMap Line.phrases ++ piece.phrases := by
  cases piece with
  | text phrase =>
    obtain ⟨front, line, rfl⟩ := List.eq_nil_or_concat' before |>.resolve_left h
    rw [text?, place_text_concat, List.flatMap_append, List.flatMap_append, List.flatMap_singleton,
      List.flatMap_singleton, List.append_assoc]
    rfl
  | list ordered attributes items =>
    rw [text?, place_list, List.flatMap_append, List.flatMap_map, ← nested rfl]
    rfl

/-- Over all pieces, their texts are in order. -/
theorem flatMap_phrases_placeAll (pieces : List Piece)
    (nested : ∀ piece ∈ pieces, piece.text? = none →
      piece.lines.flatMap Line.phrases = piece.phrases) :
    ∀ {before : List Line}, before ≠ [] → (placeAll before pieces).flatMap Line.phrases =
      before.flatMap Line.phrases ++ allPhrases pieces := by
  induction pieces with
  | nil => exact fun _ => (List.append_nil _).symm
  | cons piece pieces ih =>
    intro before h
    obtain ⟨here, others⟩ := List.forall_mem_cons.1 nested
    rw [placeAll, ih others (place_ne_nil h _ _), flatMap_phrases_place h piece here, allPhrases,
      List.append_assoc]

/-- **All texts are on the lines**, in the order of the document. A text that stands by itself has
no line, and for that reason the piece is taken to be a list. -/
theorem flatMap_phrases_lines (piece : Piece) :
    piece.text? = none → piece.lines.flatMap Line.phrases = piece.phrases := by
  induction piece using induction with
  | text phrase => exact fun h => by cases h
  | list ordered attributes items ih =>
    have inItems (n : Nat) :
        (itemLines ordered n items).flatMap Line.phrases = itemPhrases items := by
      induction items generalizing n with
      | nil => rfl
      | cons item items ih' =>
        obtain ⟨here, others⟩ := List.forall_mem_cons.1 ih
        rw [itemLines, itemPhrases, List.flatMap_append, ih' others,
          flatMap_phrases_placeAll item.pieces here (List.cons_ne_nil _ _)]
        rfl
    exact fun _ => inItems 1

/-! ## Lines with more than one text

A text that comes after a list goes on in the last line of the list, where there is a text
already. This is the only way in which two texts come onto one line. -/

/-- A line with two texts is in the one part or in the other. -/
theorem crowded_append {ls ls' : List Line} :
    Crowded (ls ++ ls') ↔ Crowded ls ∨ Crowded ls' := by
  simp only [Crowded, List.mem_append, or_and_right, exists_or]

/-- How deep a line is has no part in it. -/
theorem crowded_map_deeper {ls : List Line} : Crowded (ls.map Line.deeper) ↔ Crowded ls := by
  simp [Crowded]

/-- A text comes onto a line that has one already. -/
theorem crowded_place (h : before ≠ []) (full : ∀ line ∈ before, line.phrases ≠ [])
    (piece : Piece) : Crowded (place before piece.text? piece.lines) ↔
      Crowded before ∨ piece.text? ≠ none ∨ Crowded piece.lines := by
  cases piece with
  | text phrase =>
    obtain ⟨front, line, rfl⟩ := List.eq_nil_or_concat' before |>.resolve_left h
    have hline : 0 < line.phrases.length := List.length_pos_of_ne_nil (full line (by simp))
    refine iff_of_true ?_ (Or.inr (Or.inl (Option.some_ne_none phrase)))
    rw [text?, place_text_concat, crowded_append]
    exact Or.inr ⟨_, List.mem_singleton_self _, by simpa [Line.add] using hline⟩
  | list ordered attributes items =>
    rw [text?, place_list, crowded_append, crowded_map_deeper]
    simp

/-- No line is without a text. -/
theorem full_place (full : ∀ line ∈ before, line.phrases ≠ []) (piece : Piece)
    (nested : ∀ line ∈ piece.lines, line.phrases ≠ []) :
    ∀ line ∈ place before piece.text? piece.lines, line.phrases ≠ [] := by
  cases piece with
  | text phrase =>
    rcases List.eq_nil_or_concat' before with rfl | ⟨front, line, rfl⟩
    · exact full
    · rw [text?, place_text_concat]
      simp only [List.forall_mem_append, List.forall_mem_singleton] at full ⊢
      exact ⟨full.1, List.concat_ne_nil _ _⟩
  | list ordered attributes items =>
    rw [text?, place_list, List.forall_mem_append, List.forall_mem_map]
    exact ⟨full, nested⟩

/-- Over all pieces, when the lines of nested lists have texts as well. -/
theorem full_placeAll (pieces : List Piece)
    (nested : ∀ piece ∈ pieces, ∀ line ∈ piece.lines, line.phrases ≠ []) :
    ∀ {before : List Line}, (∀ line ∈ before, line.phrases ≠ []) →
      ∀ line ∈ placeAll before pieces, line.phrases ≠ [] := by
  induction pieces with
  | nil => exact fun full => full
  | cons piece pieces ih =>
    intro before full
    obtain ⟨here, others⟩ := List.forall_mem_cons.1 nested
    exact ih others (full_place full piece here)

/-- Each piece that is a text crowds a line, since there is a text on every line by then. -/
theorem crowded_placeAll (pieces : List Piece)
    (nested : ∀ piece ∈ pieces, ∀ line ∈ piece.lines, line.phrases ≠ []) :
    ∀ {before : List Line}, before ≠ [] → (∀ line ∈ before, line.phrases ≠ []) →
      (Crowded (placeAll before pieces) ↔
        Crowded before ∨ ∃ piece ∈ pieces, piece.text? ≠ none ∨ Crowded piece.lines) := by
  induction pieces with
  | nil =>
    intro before _ _
    simp [placeAll]
  | cons piece pieces ih =>
    intro before h full
    obtain ⟨here, others⟩ := List.forall_mem_cons.1 nested
    rw [placeAll, ih others (place_ne_nil h _ _) (full_place full piece here),
      crowded_place h full, List.exists_mem_cons_iff, or_assoc]

/-! ## Outlines

The results for lists in which each item begins with a text. -/

section Items

variable {attributes : List Attribute}

/-- Where each item begins with a text, this is all that is asked of the others. -/
theorem textsLead_list_iff
    (starts : ∀ item ∈ items, ∃ phrase rest, item.pieces = .text phrase :: rest) :
    (list ordered attributes items).TextsLead ↔
      ∀ item ∈ items, ∀ piece ∈ item.pieces.tail, piece.text? = none ∧ piece.TextsLead := by
  rw [textsLead_list]
  constructor
  · rintro ⟨lead, below⟩ item hitem piece hpiece
    exact ⟨lead item hitem piece hpiece, below item hitem piece (List.mem_of_mem_tail hpiece)⟩
  · refine fun h => ⟨fun item hitem piece hpiece => (h item hitem piece hpiece).1, ?_⟩
    intro item hitem piece hpiece
    obtain ⟨phrase, rest, heq⟩ := starts item hitem
    have tail := h item hitem piece
    rw [heq] at hpiece tail
    rcases List.mem_cons.1 hpiece with rfl | hpiece
    · exact .text phrase
    · exact (tail hpiece).2

/-- An item that begins with a text has it on the line that it begins. -/
theorem full_itemLines (starts : ∀ item ∈ items, ∃ phrase rest, item.pieces = .text phrase :: rest)
    (nested : ∀ item ∈ items, ∀ piece ∈ item.pieces, ∀ line ∈ piece.lines, line.phrases ≠ []) :
    ∀ n, ∀ line ∈ itemLines ordered n items, line.phrases ≠ [] := by
  induction items with
  | nil => exact fun n => List.forall_mem_nil _
  | cons item items ih =>
    intro n
    obtain ⟨⟨phrase, rest, heq⟩, starts⟩ := List.forall_mem_cons.1 starts
    obtain ⟨here, others⟩ := List.forall_mem_cons.1 nested
    rw [heq, List.forall_mem_cons] at here
    rw [itemLines, heq, placeAll_text_cons, List.forall_mem_append]
    exact ⟨full_placeAll rest here.2 (by simp [Line.ofItem]), ih starts others (n + 1)⟩

/-- The first piece of an item is alone on its line, so it is the ones after it that crowd. -/
theorem crowded_itemLines
    (starts : ∀ item ∈ items, ∃ phrase rest, item.pieces = .text phrase :: rest)
    (nested : ∀ item ∈ items, ∀ piece ∈ item.pieces, ∀ line ∈ piece.lines, line.phrases ≠ []) :
    ∀ n, Crowded (itemLines ordered n items) ↔
      ∃ item ∈ items, ∃ piece ∈ item.pieces.tail, piece.text? ≠ none ∨ Crowded piece.lines := by
  induction items with
  | nil =>
    intro n
    simp [itemLines, Crowded]
  | cons item items ih =>
    intro n
    obtain ⟨⟨phrase, rest, heq⟩, starts⟩ := List.forall_mem_cons.1 starts
    obtain ⟨here, others⟩ := List.forall_mem_cons.1 nested
    rw [heq, List.forall_mem_cons] at here
    have alone : ¬ Crowded [.ofItem ordered n [phrase]] := by simp [Crowded, Line.ofItem]
    rw [itemLines, crowded_append, ih starts others, List.exists_mem_cons_iff, heq,
      placeAll_text_cons, crowded_placeAll rest here.2 (List.cons_ne_nil _ _)
        (by simp [Line.ofItem]), or_iff_right alone, List.tail_cons]

/-- The entries of an item with its text and lists after it. -/
theorem placeAll_eq_entries
    (h : ∀ piece ∈ pieces, piece.text? = none ∧ piece.lines = piece.entries) :
    ∀ before, placeAll before pieces = before ++ (allEntries pieces).map Line.deeper := by
  induction pieces with
  | nil => exact fun before => (List.append_nil before).symm
  | cons piece pieces ih =>
    intro before
    obtain ⟨⟨hlist, hlines⟩, others⟩ := List.forall_mem_cons.1 h
    rw [placeAll, hlist, place_list, ih others, hlines, allEntries, List.map_append,
      List.append_assoc]

/-- With texts at the front alone, the lines of a list are its entries. -/
theorem itemLines_eq_entries
    (starts : ∀ item ∈ items, ∃ phrase rest, item.pieces = .text phrase :: rest)
    (h : ∀ item ∈ items, ∀ piece ∈ item.pieces.tail,
      piece.text? = none ∧ piece.lines = piece.entries) :
    ∀ n, itemLines ordered n items = itemEntries ordered n items := by
  induction items with
  | nil => exact fun n => rfl
  | cons item items ih =>
    intro n
    obtain ⟨⟨phrase, rest, heq⟩, starts⟩ := List.forall_mem_cons.1 starts
    obtain ⟨here, others⟩ := List.forall_mem_cons.1 h
    rw [heq, List.tail_cons] at here
    have texts : (text phrase :: rest).filterMap text? = [phrase] := by
      rw [List.filterMap_cons_some (f := text?) (a := text phrase) rfl]
      exact congrArg (phrase :: ·)
        (List.filterMap_eq_nil_iff.2 fun piece hpiece => (here piece hpiece).1)
    rw [itemLines, itemEntries, heq, placeAll_text_cons, placeAll_eq_entries here,
      ih starts others, texts, List.append_assoc]
    rfl

end Items

namespace IsOutline

/-- Each line has a text on it. -/
theorem full (piece : Piece) : piece.IsOutline → ∀ line ∈ piece.lines, line.phrases ≠ [] := by
  induction piece using induction with
  | text phrase => exact fun _ => List.forall_mem_nil _
  | list ordered attributes items ih =>
    intro outline
    obtain ⟨-, starts, -, below⟩ := isOutline_list.1 outline
    exact full_itemLines starts
      (fun item hitem piece hpiece => ih item hitem piece hpiece (below item hitem piece hpiece)) 1

/-- **Two texts come onto one line** just if some text comes after a list. Every line has a text on
it already when the lines of its list are done, so each text that comes later makes a line with
two. -/
theorem crowded_lines_iff (piece : Piece) :
    piece.IsOutline → (Crowded piece.lines ↔ ¬ piece.TextsLead) := by
  induction piece using induction with
  | text phrase =>
    refine fun _ => iff_of_false ?_ (not_not_intro (.text phrase))
    simp [Crowded, lines]
  | list ordered attributes items ih =>
    intro outline
    obtain ⟨-, starts, -, below⟩ := isOutline_list.1 outline
    have nested : ∀ item ∈ items, ∀ piece ∈ item.pieces.tail,
        (Crowded piece.lines ↔ ¬ piece.TextsLead) := fun item hitem piece hpiece =>
      ih item hitem piece (List.mem_of_mem_tail hpiece)
        (below item hitem piece (List.mem_of_mem_tail hpiece))
    rw [lines, crowded_itemLines starts fun item hitem piece hpiece =>
      full piece (below item hitem piece hpiece), textsLead_list_iff starts]
    simp only [not_forall, not_and_or, exists_prop]
    exact exists_congr fun item => and_congr_right fun hitem => exists_congr fun piece =>
      and_congr_right fun hpiece => or_congr_right (nested item hitem piece hpiece)

/-- Where no text comes after a list, the lines are the entries. -/
theorem lines_eq_entries (piece : Piece) :
    piece.IsOutline → piece.TextsLead → piece.lines = piece.entries := by
  induction piece using induction with
  | text phrase => exact fun _ _ => rfl
  | list ordered attributes items ih =>
    intro outline lead
    obtain ⟨-, starts, -, below⟩ := isOutline_list.1 outline
    refine itemLines_eq_entries starts (fun item hitem piece hpiece => ?_) 1
    obtain ⟨hlist, hlead⟩ := (textsLead_list_iff starts).1 lead item hitem piece hpiece
    have hmem := List.mem_of_mem_tail hpiece
    exact ⟨hlist, ih item hitem piece hmem (below item hitem piece hmem) hlead⟩

end IsOutline

end Piece

end Tagdown
