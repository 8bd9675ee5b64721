import Tagdown.Proofs.Document.Outline
import Tagdown.Proofs.Normalize.NormalForm
import Tagdown.Proofs.Text.Lines

/-!
# Outlines and their lines as texts

A phrase is a text that normalization leaves as it is, wherever it stands (`Text.IsSpaced`), and so
an outline is in its normal form (`Piece.IsOutline.normal`).

The lines of an outline are joined to one text (`Line.joined`). To indent this text is to make each
line one step deeper (`Line.indented_joined`), and to put the lines of an item together is to indent
what is in the item and put the marker before it (`Piece.joined_placeAll`).
-/

namespace Tagdown

open Rule (indentation)
open Text (afterNewlines isBlank isCollapsible isFilled isLeadingBreak isWhitespace lines trim
  trimEndWhile trimStartWhile)

/-! ## Phrases as texts

A phrase is words with single spaces between them. It is read word by word, since at the end of a
word it is known that no white space is pending. -/

/-- A text of words, read word by word. -/
inductive Text.IsSpaced : List Char → Prop where
  | last {w : List Char} (nonempty : w ≠ []) (solid : ∀ c ∈ w, isWhitespace c = false) : IsSpaced w
  | word {w s : List Char} (nonempty : w ≠ []) (solid : ∀ c ∈ w, isWhitespace c = false)
    (rest : IsSpaced s) : IsSpaced (w ++ ' ' :: s)

namespace Text.IsSpaced

variable {s : List Char}

/-- A spaced word has a first character, and white space is not what it starts with. -/
theorem exists_cons (h : IsSpaced s) : ∃ c rest, s = c :: rest ∧ isWhitespace c = false := by
  cases h with
  | last nonempty solid =>
    obtain ⟨c, rest, rfl⟩ := List.exists_cons_of_ne_nil nonempty
    exact ⟨c, rest, rfl, solid c List.mem_cons_self⟩
  | word nonempty solid =>
    obtain ⟨c, rest, rfl⟩ := List.exists_cons_of_ne_nil nonempty
    exact ⟨c, rest ++ _, rfl, solid c List.mem_cons_self⟩

/-- Nor does it end with white space. -/
theorem exists_concat (h : IsSpaced s) : ∃ rest c, s = rest ++ [c] ∧ isWhitespace c = false := by
  induction h with
  | last nonempty solid =>
    obtain ⟨rest, c, rfl⟩ := List.eq_nil_or_concat' _ |>.resolve_left nonempty
    exact ⟨rest, c, rfl, solid c (by simp)⟩
  | @word w _ _ _ _ ih =>
    obtain ⟨rest, c, rfl, hc⟩ := ih
    exact ⟨w ++ ' ' :: rest, c, by simp, hc⟩

/-- There is no other white space in it than spaces. -/
theorem not_break (h : IsSpaced s) : ∀ c ∈ s, isLeadingBreak c = false := by
  have inside {w : List Char} (solid : ∀ c ∈ w, isWhitespace c = false) :
      ∀ c ∈ w, isLeadingBreak c = false :=
    fun c hc => isLeadingBreak_of_not_isWhitespace (solid c hc)
  induction h with
  | last _ solid => exact inside solid
  | word _ solid _ ih =>
    rw [List.forall_mem_append, List.forall_mem_cons]
    exact ⟨inside solid, by decide, ih⟩

/-- Solid characters pass unchanged, and what comes after them is read as after no space. -/
theorem collapseFrom_append {w : List Char} (nonempty : w ≠ [])
    (solid : ∀ c ∈ w, isWhitespace c = false) (t : List Char) :
    ∀ afterSpace, collapseFrom afterSpace (w ++ t) = w ++ collapseFrom false t := by
  induction w with
  | nil => exact absurd rfl nonempty
  | cons c w ih =>
    intro afterSpace
    obtain ⟨hc, solid⟩ := List.forall_mem_cons.1 solid
    have hc : isCollapsible c = false := by rw [isCollapsible, hc, Bool.false_and]
    rw [List.cons_append, collapseFrom, hc, if_neg Bool.false_ne_true]
    cases w with
    | nil => rfl
    | cons d w => rw [ih (List.cons_ne_nil d w) solid]; rfl

/-- White space in it is collapsed. -/
theorem collapseFrom_eq (h : IsSpaced s) : ∀ afterSpace, collapseFrom afterSpace s = s := by
  induction h with
  | @last w nonempty solid =>
    intro afterSpace
    have := collapseFrom_append nonempty solid [] afterSpace
    rwa [List.append_nil, collapseFrom, List.append_nil] at this
  | word nonempty solid _ ih =>
    intro afterSpace
    rw [collapseFrom_append nonempty solid, collapseFrom, if_pos isCollapsible_space,
      if_neg Bool.false_ne_true, ih]

end Text.IsSpaced

namespace Phrase

/-- The phrases of an outline are words with single spaces between, which collapsing leaves
alone. -/
theorem isSpaced (phrase : Phrase) : Text.IsSpaced phrase.text.toList := by
  obtain ⟨words, nonempty, solid⟩ := phrase
  rw [text, String.toList_intercalate]
  induction words with
  | nil => exact absurd rfl nonempty
  | cons w words ih =>
    obtain ⟨⟨hne, hw⟩, solid⟩ := List.forall_mem_cons.1 solid
    have hne : w.toList ≠ [] := mt String.toList_eq_nil_iff.1 hne
    have hw : ∀ c ∈ w.toList, isWhitespace c = false := by simpa using hw
    cases words with
    | nil =>
      rw [List.map_singleton, List.intercalate_singleton]
      exact .last hne hw
    | cons w' words =>
      rw [List.map_cons, List.map_cons, List.intercalate_cons_cons, List.append_assoc]
      exact .word hne hw (ih (List.cons_ne_nil w' words) solid)

/-- A phrase stays on one line: no character of it is a line feed. -/
theorem newline_not_mem (phrase : Phrase) : '\n' ∉ phrase.text.toList :=
  fun hmem => absurd (phrase.isSpaced.not_break '\n' hmem) (by decide)

theorem startsSolid (phrase : Phrase) : StartsSolid phrase.text := by
  obtain ⟨c, rest, heq, hc⟩ := phrase.isSpaced.exists_cons
  exact ⟨c, rest, heq, by rw [isCollapsible, hc, Bool.false_and]⟩

theorem endsSolid (phrase : Phrase) : EndsSolid phrase.text := by
  obtain ⟨rest, c, heq, hc⟩ := phrase.isSpaced.exists_concat
  exact ⟨rest, c, heq, by rw [isCollapsible, hc, Bool.false_and]⟩

end Phrase

/-! ## The normal form of an outline

An item has texts and lists in it, no two texts next to each other, and no text with white space
at its ends. -/

namespace Piece

/-- What stands in an item is in its normal form. -/
theorem normal_pieces {pieces : List Piece} {options : Options} {parent : Label}
    (apart : pieces.IsChain fun a b => ¬ (a.text?.isSome ∧ b.text?.isSome)) :
    Row.Normal options parent (pieces.map toRose) := by
  refine Row.normal_of_solid ⟨?_, ?_⟩ ?_
  · rw [List.map_map, List.mem_map]
    rintro ⟨piece, -, hkind⟩
    cases piece <;> cases hkind
  · rw [List.map_map, List.isChain_map]
    refine apart.imp fun a b hab hkinds => hab ?_
    cases a <;> cases b <;> cases hkinds.1 <;> cases hkinds.2
    exact ⟨rfl, rfl⟩
  · rw [List.forall_mem_map]
    intro piece _ htext
    cases piece with
    | text phrase =>
      exact ⟨phrase.startsSolid, phrase.endsSolid, phrase.isSpaced.collapseFrom_eq false⟩
    | list ordered attributes items => cases htext

/-- There are only elements in a list. -/
theorem normal_items (options : Options) (parent : Label) (items : List (Item Piece)) :
    Row.Normal options parent (itemRoses items) := by
  refine Row.normal_of_elements ?_
  rw [itemRoses_eq_map, List.forall_mem_map]
  exact fun _ _ => rfl

/-- An outline is written as normalization would leave it, and so normalizing changes nothing in
it. -/
theorem IsOutline.normal (options : Options) (piece : Piece) :
    piece.IsOutline → Rose.Everywhere (Row.Normal options) piece.toRose := by
  induction piece using induction with
  | text phrase => exact fun _ => Rose.everywhere_of_text rfl
  | list ordered attributes items ih =>
    intro outline
    obtain ⟨-, -, apart, below⟩ := isOutline_list.1 outline
    refine .node (fun _ => normal_items options _ items) fun _ => ?_
    rw [itemRoses_eq_map, List.forall_mem_map]
    refine fun item hitem => .node (fun _ => normal_pieces (apart item hitem)) fun _ => ?_
    rw [List.forall_mem_map]
    exact fun piece hpiece => ih item hitem piece hpiece (below item hitem piece hpiece)

end Piece

/-! ## Lines as texts

Lines are joined with newlines between them, while a list has a newline after each item. The
difference is one newline at the end, which is trimmed by the item around the list. -/

namespace Line

/-- A line as characters: its indentation, its marker and its phrases. -/
theorem toList_text (line : Line) : line.text.toList =
    List.replicate (4 * line.depth) ' ' ++ line.marker.toList ++
      line.phrases.flatMap fun phrase => phrase.text.toList := by
  rw [text, String.toList_append, String.toList_append, String.toList_ofList, String.toList_join,
    List.flatMap_map]

/-- One level deeper is four more blanks in front, the same four that nested lines are indented
with. -/
theorem toList_text_deeper (line : Line) :
    line.deeper.text.toList = indentation ++ line.text.toList := by
  rw [toList_text, toList_text, deeper, Nat.mul_add, Nat.add_comm, List.replicate_add,
    List.append_assoc, List.append_assoc, List.append_assoc]
  rfl

/-- A phrase that comes later stands at the end of its line. -/
theorem toList_text_add (phrase : Phrase) (line : Line) :
    (line.add phrase).text.toList = line.text.toList ++ phrase.text.toList := by
  rw [toList_text, toList_text, add, List.flatMap_append, List.flatMap_singleton,
    List.append_assoc, List.append_assoc, List.append_assoc]
  rfl

theorem toList_text_ofItem (ordered : Bool) (n : Nat) :
    (ofItem ordered n []).text.toList = (ofItem ordered n []).marker.toList := by
  rw [toList_text]
  exact List.append_nil _

/-- Neither the number of an item nor what stands around it is a break, so nothing of a marker is
stripped. -/
theorem not_break_marker (line : Line) : ∀ c ∈ line.marker.toList, isLeadingBreak c = false := by
  rw [marker]
  split
  · rw [String.toList_append, List.forall_mem_append]
    refine ⟨fun c hc => ?_, by simp [isLeadingBreak]⟩
    have digit := Nat.isDigit_of_mem_toDigits (by decide) (by decide) (Nat.toList_repr ▸ hc)
    refine Bool.eq_false_iff.2 fun hbreak => ?_
    rcases Text.isLeadingBreak_iff.1 hbreak with (rfl | rfl) | rfl <;>
      exact absurd digit (by decide)
  · simp [isLeadingBreak]

/-- A line goes on to its end. -/
theorem not_break (line : Line) : ∀ c ∈ line.text.toList, isLeadingBreak c = false := by
  rw [toList_text, List.forall_mem_append, List.forall_mem_append]
  refine ⟨⟨fun c hc => ?_, line.not_break_marker⟩, fun c hc => ?_⟩
  · rw [List.eq_of_mem_replicate hc]
    decide
  · obtain ⟨phrase, -, hphrase⟩ := List.mem_flatMap.1 hc
    exact phrase.isSpaced.not_break c hphrase

/-- A line is one line: neither indentation, marker nor phrase breaks it. -/
theorem newline_not_mem (line : Line) : '\n' ∉ line.text.toList :=
  fun hmem => absurd (line.not_break '\n' hmem) (by decide)

/-- Some lines as a text. -/
def joined (ls : List Line) : List Char :=
  ['\n'].intercalate (ls.map fun line => line.text.toList)

/-- Joined lines are what a reader sees, one under the other. -/
theorem ofList_joined (ls : List Line) :
    String.ofList (joined ls) = "\n".intercalate (ls.map text) := by
  rw [← String.toList_inj, String.toList_ofList, String.toList_intercalate, List.map_map]
  rfl

/-- Some lines as a text, with a newline after each. -/
def ended (ls : List Line) : List Char :=
  ls.flatMap fun line => line.text.toList ++ ['\n']

/-- No line is blank, since it has a marker. -/
theorem isFilled_text (line : Line) : isFilled line.text.toList = true := by
  have marker : isFilled line.marker.toList = true := by
    rw [marker]
    split
    · rw [String.toList_append, isFilled, isBlank, List.all_append, Bool.not_and,
        Bool.or_eq_true]
      exact Or.inr (by decide)
    · decide
  rw [isFilled, isBlank, Bool.not_eq_true', Bool.eq_false_iff] at marker ⊢
  rw [toList_text, List.all_append, List.all_append, Ne, Bool.and_eq_true, Bool.and_eq_true]
  exact fun blank => marker blank.1.2

theorem text_ne_nil (line : Line) : line.text.toList ≠ [] := by
  intro hnil
  have filled := line.isFilled_text
  rw [hnil] at filled
  cases filled

variable {ls ls' : List Line}

theorem ended_append (ls ls' : List Line) : ended (ls ++ ls') = ended ls ++ ended ls' :=
  List.flatMap_append

theorem joined_concat (front : List Line) (line : Line) :
    joined (front ++ [line]) = ended front ++ line.text.toList := by
  induction front with
  | nil => exact List.intercalate_singleton
  | cons first front ih =>
    obtain ⟨second, rest, heq⟩ := List.exists_cons_of_ne_nil
      (List.append_ne_nil_of_right_ne_nil front (List.cons_ne_nil line []))
    rw [ended, List.flatMap_cons, ← ended, List.append_assoc, ← ih, List.cons_append, heq, joined,
      joined, List.map_cons, List.map_cons, List.intercalate_cons_cons, List.append_assoc]

/-- Ending each line and joining them differ by one line feed at the end. -/
theorem ended_eq (h : ls ≠ []) : ended ls = joined ls ++ ['\n'] := by
  obtain ⟨front, line, rfl⟩ := List.eq_nil_or_concat' ls |>.resolve_left h
  rw [ended_append, joined_concat, List.append_assoc]
  exact congrArg (ended front ++ ·) (List.append_nil _)

/-- Two runs of lines are joined by one line feed, where neither is empty. -/
theorem joined_append (h : ls ≠ []) (h' : ls' ≠ []) :
    joined (ls ++ ls') = joined ls ++ '\n' :: joined ls' := by
  obtain ⟨front, line, rfl⟩ := List.eq_nil_or_concat' ls' |>.resolve_left h'
  rw [← List.append_assoc, joined_concat, joined_concat, ended_append, ended_eq h,
    List.append_assoc, List.append_assoc]
  rfl

/-- Splitting takes back what joining did, since no line has a line feed in it. -/
theorem lines_joined (h : ls ≠ []) : lines (joined ls) = ls.map fun line => line.text.toList := by
  refine Text.lines_intercalate ?_ (mt List.map_eq_nil_iff.1 h)
  rw [List.forall_mem_map]
  exact fun line _ => line.newline_not_mem

/-- Lines that are indented are deeper. -/
theorem indented_joined (h : ls ≠ []) :
    indentation ++ afterNewlines indentation (joined ls) = joined (ls.map deeper) := by
  obtain ⟨front, line, rfl⟩ := List.eq_nil_or_concat' ls |>.resolve_left h
  rw [List.map_append, List.map_singleton, joined_concat, joined_concat]
  induction front with
  | nil =>
    rw [List.map_nil, toList_text_deeper]
    exact congrArg (indentation ++ ·) (Text.afterNewlines_of_not_mem line.newline_not_mem)
  | cons first front ih =>
    have ih := ih (List.append_ne_nil_of_right_ne_nil front (List.cons_ne_nil line []))
    rw [ended, List.flatMap_cons, ← ended, List.append_assoc, List.append_assoc,
      List.singleton_append, Text.afterNewlines_line first.newline_not_mem, ih, List.map_cons,
      ended, ended, List.flatMap_cons, toList_text_deeper first]
    simp only [List.append_assoc, List.cons_append, List.nil_append]

theorem exists_joined_cons (line : Line) (ls : List Line) :
    ∃ rest, joined (line :: ls) = line.text.toList ++ rest := by
  have alone : joined [line] = line.text.toList := List.intercalate_singleton
  cases ls with
  | nil => exact ⟨[], alone.trans (List.append_nil _).symm⟩
  | cons line' ls =>
    refine ⟨'\n' :: joined (line' :: ls), ?_⟩
    rw [← alone]
    exact joined_append (List.cons_ne_nil line []) (List.cons_ne_nil line' ls)

/-- Lines begin with a marker or with spaces. -/
theorem starts_joined (ls : List Line) : ∀ c ∈ (joined ls).head?, isLeadingBreak c = false := by
  cases ls with
  | nil => exact fun c hc => by cases hc
  | cons line ls =>
    obtain ⟨rest, hrest⟩ := exists_joined_cons line ls
    obtain ⟨c, s, heq⟩ := List.exists_cons_of_ne_nil line.text_ne_nil
    rw [hrest, heq]
    rintro _ ⟨⟩
    exact line.not_break c (by rw [heq]; exact List.mem_cons_self)

/-- Lines with a text on each end with a word. -/
theorem exists_joined_concat (h : ls ≠ []) (full : ∀ line ∈ ls, line.phrases ≠ []) :
    ∃ rest c, joined ls = rest ++ [c] ∧ isWhitespace c = false := by
  obtain ⟨front, line, rfl⟩ := List.eq_nil_or_concat' ls |>.resolve_left h
  obtain ⟨phrases, phrase, heq⟩ :=
    List.eq_nil_or_concat' line.phrases |>.resolve_left (full line (by simp))
  obtain ⟨rest, c, hphrase, hc⟩ := phrase.isSpaced.exists_concat
  rw [joined_concat, toList_text, heq, List.flatMap_append, List.flatMap_singleton, hphrase]
  simp only [← List.append_assoc]
  exact ⟨_, c, rfl, hc⟩

/-- The last line ends with a phrase, so trimming the end takes nothing. -/
theorem ends_joined (h : ls ≠ []) (full : ∀ line ∈ ls, line.phrases ≠ []) :
    ∀ c ∈ (joined ls).getLast?, isWhitespace c = false := by
  obtain ⟨rest, c, heq, hc⟩ := exists_joined_concat h full
  rw [heq, List.getLast?_concat]
  rintro _ ⟨⟩
  exact hc

/-- Lines with a text on each are not blank, and so the rule for their list is asked. -/
theorem isBlank_ended (h : ls ≠ []) (full : ∀ line ∈ ls, line.phrases ≠ []) :
    isBlank (ended ls) = false := by
  obtain ⟨rest, c, heq, hc⟩ := exists_joined_concat h full
  rw [ended_eq h, heq, isBlank, List.all_append, List.all_append, List.all_cons, hc,
    Bool.false_and, Bool.and_false, Bool.false_and]

/-- The newline after the last line is white space. -/
theorem trimEndWhile_ended (h : ls ≠ []) (full : ∀ line ∈ ls, line.phrases ≠ []) :
    trimEndWhile isWhitespace (ended ls) = joined ls := by
  rw [ended_eq h, Text.trimEndWhile_append_of_all (by decide),
    Text.trimEndWhile_eq_self (ends_joined h full)]

end Line

namespace Piece

open Line (ended joined place)

/-- What is left of a piece in an item: a list begins with a new line. -/
def content : Piece → List Char
  | text phrase => phrase.text.toList
  | list ordered _ items => '\n' :: joined (itemLines ordered 1 items)

/-- A nested list has at least one item, and so at least one line. -/
theorem IsOutline.lines_ne_nil {piece : Piece} (h : piece.IsOutline) (hlist : piece.text? = none) :
    piece.lines ≠ [] := by
  cases h with
  | text => cases hlist
  | list nonempty => exact itemLines_ne_nil nonempty _ 1

/-- What a piece adds to the lines before it is its content, with the indentation of the item
after each line feed. -/
theorem joined_place {before : List Line} (hne : before ≠ []) {piece : Piece}
    (h : piece.IsOutline) : joined (place before piece.text? piece.lines) =
      joined before ++ afterNewlines indentation piece.content := by
  cases piece with
  | text phrase =>
    obtain ⟨front, line, rfl⟩ := List.eq_nil_or_concat' before |>.resolve_left hne
    rw [text?, place_text_concat, Line.joined_concat, Line.joined_concat, Line.toList_text_add,
      content, Text.afterNewlines_of_not_mem phrase.newline_not_mem, List.append_assoc]
  | list ordered attributes items =>
    have nested : itemLines ordered 1 items ≠ [] := h.lines_ne_nil rfl
    rw [text?, place_list, lines, Line.joined_append hne (mt List.map_eq_nil_iff.1 nested),
      ← Line.indented_joined nested, content, Text.afterNewlines_newline]

/-- **The lines of an item** are its marker and what is in it, indented. Indenting goes by line
feeds, and so does placing pieces: both leave the line that the item begins. -/
theorem joined_placeAll (pieces : List Piece) (h : ∀ piece ∈ pieces, piece.IsOutline) :
    ∀ {before : List Line}, before ≠ [] → joined (placeAll before pieces) =
      joined before ++ afterNewlines indentation (pieces.flatMap content) := by
  induction pieces with
  | nil => exact fun _ => (List.append_nil _).symm
  | cons piece pieces ih =>
    intro before hne
    obtain ⟨here, others⟩ := List.forall_mem_cons.1 h
    rw [placeAll, ih others (place_ne_nil hne _ _), joined_place hne here, List.flatMap_cons,
      Text.afterNewlines_append, List.append_assoc]

/-- A piece ends with a word. -/
theorem IsOutline.exists_content_concat {piece : Piece} (h : piece.IsOutline) :
    ∃ rest c, piece.content = rest ++ [c] ∧ isWhitespace c = false := by
  cases piece with
  | text phrase => exact phrase.isSpaced.exists_concat
  | list ordered attributes items =>
    obtain ⟨rest, c, heq, hc⟩ := Line.exists_joined_concat (h.lines_ne_nil rfl) (h.full _)
    exact ⟨'\n' :: rest, c, congrArg ('\n' :: ·) heq, hc⟩

section Content

variable {phrase : Phrase} {rest : List Piece}
  (h : ∀ piece ∈ Piece.text phrase :: rest, piece.IsOutline)

/-- An item begins with a phrase, so it is never blank. -/
theorem isBlank_content (phrase : Phrase) (rest : List Piece) :
    isBlank ((Piece.text phrase :: rest).flatMap content) = false := by
  obtain ⟨c, s, heq, hc⟩ := phrase.isSpaced.exists_cons
  rw [List.flatMap_cons, content, heq, isBlank, List.cons_append, List.all_cons, hc,
    Bool.false_and]

include h

/-- There is no white space around what is in an item. -/
theorem trim_content : trim ((Piece.text phrase :: rest).flatMap content) =
    (Piece.text phrase :: rest).flatMap content := by
  have start : trimStartWhile isWhitespace ((Piece.text phrase :: rest).flatMap content) =
      (Piece.text phrase :: rest).flatMap content := by
    obtain ⟨c, s, heq, hc⟩ := phrase.isSpaced.exists_cons
    rw [List.flatMap_cons, content, heq, List.cons_append]
    exact Text.trimStartWhile_cons_of_not (by simp [hc]) _
  rw [trim, start]
  obtain ⟨front, last, hlast⟩ :=
    List.eq_nil_or_concat' (Piece.text phrase :: rest) |>.resolve_left (List.cons_ne_nil _ _)
  obtain ⟨s, c, heq, hc⟩ := (h last (by rw [hlast]; simp)).exists_content_concat
  rw [hlast, List.flatMap_append, List.flatMap_singleton, heq, ← List.append_assoc]
  exact Text.trimEndWhile_concat_of_not (by simp [hc]) _

end Content

end Piece

end Tagdown
