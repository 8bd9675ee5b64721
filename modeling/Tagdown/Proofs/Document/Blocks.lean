import Tagdown.Proofs.Document.OutlineText
import Tagdown.Proofs.Text.Blocks

/-!
# Documents of blocks

A document of paragraphs, headings, rules and quotations (`Block`), and the lines that are to be
expected of it (`Block.allLines`): blocks have one empty line between them, and a quotation has its
mark before every line that is in it, empty ones too.

As a text, blocks in a row are the texts of all of them with one empty line between each and the
next (`Block.allText_eq_spaced`), and a quotation is such a text with its mark before each line
(`Block.text_quote`). No white space is around the text of a block, and no more than one empty line
in a row is in it (`Block.isTight_text`).
-/

namespace Tagdown

open Rule (quoteLines)
open Text (IsFramed IsTight spaced)

/-- A phrase begins and ends with a word. -/
theorem Phrase.isFramed (phrase : Phrase) : IsFramed phrase.text.toList :=
  ⟨phrase.isSpaced.exists_cons, phrase.isSpaced.exists_concat⟩

/-- What stands between blank lines. -/
inductive Block where
  | paragraph (attributes : List Attribute) (phrase : Phrase)
  /-- A heading of the level after `level`. -/
  | heading (level : Fin 6) (attributes : List Attribute) (phrase : Phrase)
  | rule (attributes : List Attribute)
  /-- A quotation has one block in it at least. -/
  | quote (attributes : List Attribute) (first : Block) (others : List Block)

namespace Block

/-- What holds of all blocks without others in them, and of a quotation if it holds of those in it,
holds of each block. -/
@[elab_as_elim]
theorem induction {P : Block → Prop}
    (paragraph : ∀ attributes phrase, P (.paragraph attributes phrase))
    (heading : ∀ level attributes phrase, P (.heading level attributes phrase))
    (rule : ∀ attributes, P (.rule attributes))
    (quote : ∀ attributes first others, (∀ block ∈ first :: others, P block) →
      P (.quote attributes first others)) (block : Block) : P block :=
  @Block.rec P (fun others => ∀ block ∈ others, P block) paragraph heading rule
    (fun attributes first others here below =>
      quote attributes first others (List.forall_mem_cons.2 ⟨here, below⟩))
    (List.forall_mem_nil _) (fun _ _ here others => List.forall_mem_cons.2 ⟨here, others⟩) block

/-! ## As a document

Each block is a part of a document in its normal form. -/

/-- The tag of a heading. -/
def headingTag (level : Fin 6) : String :=
  "h" ++ toString (level.val + 1)

mutual

/-- The block as a part of a document. -/
def toRose : Block → Rose Node
  | paragraph attributes phrase => .ofElement "p" attributes [.ofText phrase.text]
  | heading level attributes phrase =>
    .ofElement (headingTag level) attributes [.ofText phrase.text]
  | rule attributes => .ofElement "hr" attributes []
  | quote attributes first others =>
    .ofElement "blockquote" attributes (toRose first :: toRoses others)

/-- `toRose` of each block. -/
def toRoses : List Block → List (Rose Node)
  | [] => []
  | block :: blocks => toRose block :: toRoses blocks

end

theorem toRoses_eq_map (blocks : List Block) : toRoses blocks = blocks.map toRose := by
  induction blocks with
  | nil => rfl
  | cons block blocks ih => rw [toRoses, List.map_cons, ih]

theorem toRose_quote (attributes : List Attribute) (first : Block) (others : List Block) :
    (quote attributes first others).toRose =
      .ofElement "blockquote" attributes ((first :: others).map toRose) := by
  rw [toRose, toRoses_eq_map, List.map_cons]

/-- Every block is an element of the document, so no text is among blocks. -/
theorem isElement_kind_toRose (block : Block) : block.toRose.kind.isElement = true := by
  cases block <;> rfl

/-- A row of blocks is a row of elements, in which there is nothing to normalize. -/
theorem everywhere_normal_blocks {options : Options} {n : Node} {blocks : List Block}
    (below : ∀ block ∈ blocks, Rose.Everywhere (Row.Normal options) block.toRose) :
    Rose.Everywhere (Row.Normal options) (.node n (blocks.map toRose)) := by
  refine .node (fun _ => Row.normal_of_elements ?_) fun _ => List.forall_mem_map.2 below
  exact List.forall_mem_map.2 fun block _ => block.isElement_kind_toRose

/-- Normalization leaves a block as it is. -/
theorem normal (options : Options) (block : Block) :
    Rose.Everywhere (Row.Normal options) block.toRose := by
  have normal_phrase (parent : Node) (phrase : Phrase) :
      Rose.Everywhere (Row.Normal options) (.node parent [.ofText phrase.text]) :=
    Rose.everywhere_normal_singleton (Piece.normal_pieces (.singleton (.text phrase)))
      (Rose.everywhere_of_text rfl)
  induction block using induction with
  | paragraph attributes phrase => exact normal_phrase _ phrase
  | heading level attributes phrase => exact normal_phrase _ phrase
  | rule attributes => exact everywhere_normal_blocks (List.forall_mem_nil _)
  | quote attributes first others ih =>
    rw [toRose_quote]
    exact everywhere_normal_blocks ih

/-! ## As lines

Two ways to put blocks one after the other: with an empty line between their lines, and as texts
with a blank line between. They agree, since no block is without a line. -/

mutual

/-- The lines of a block. -/
def lines : Block → List String
  | paragraph _ phrase => [phrase.text]
  | heading level _ phrase =>
    [String.ofList (List.replicate (level.val + 1) '#') ++ " " ++ phrase.text]
  | rule _ => ["* * *"]
  | quote _ first others => (lines first ++ linesAfter others).map ("> " ++ ·)

/-- The lines of blocks that come after another one. -/
def linesAfter : List Block → List String
  | [] => []
  | block :: blocks => "" :: (lines block ++ linesAfter blocks)

end

/-- The lines of blocks in a row, with an empty line between each of them and the next. -/
def allLines : List Block → List String
  | [] => []
  | block :: blocks => block.lines ++ linesAfter blocks

/-- A block as a text. -/
def text (block : Block) : List Char :=
  ("\n".intercalate block.lines).toList

/-- Blocks in a row as a text. -/
def allText (blocks : List Block) : List Char :=
  ("\n".intercalate (allLines blocks)).toList

variable {block : Block} {blocks : List Block}

/-- Every block has a line. -/
theorem lines_ne_nil (block : Block) : block.lines ≠ [] := by
  induction block using induction with
  | quote attributes first others ih =>
    rw [lines, Ne, List.map_eq_nil_iff]
    exact List.append_ne_nil_of_left_ne_nil (ih first List.mem_cons_self) _
  | _ => exact List.cons_ne_nil _ _

theorem allLines_cons_ne_nil (block : Block) (blocks : List Block) :
    allLines (block :: blocks) ≠ [] :=
  List.append_ne_nil_of_left_ne_nil block.lines_ne_nil _

/-- What holds of the empty line and of the lines of all blocks holds of the lines between and in
them. -/
theorem forall_mem_linesAfter {P : String → Prop} (empty : P "")
    (h : ∀ block ∈ blocks, ∀ line ∈ block.lines, P line) : ∀ line ∈ linesAfter blocks, P line := by
  induction blocks with
  | nil => exact List.forall_mem_nil _
  | cons block blocks ih =>
    obtain ⟨here, others⟩ := List.forall_mem_cons.1 h
    rw [linesAfter, List.forall_mem_cons, List.forall_mem_append]
    exact ⟨empty, here, ih others⟩

/-- The same, the first block included. -/
theorem forall_mem_allLines {P : String → Prop} (empty : P "")
    (h : ∀ block ∈ blocks, ∀ line ∈ block.lines, P line) : ∀ line ∈ allLines blocks, P line := by
  cases blocks with
  | nil => exact List.forall_mem_nil _
  | cons block blocks =>
    obtain ⟨here, others⟩ := List.forall_mem_cons.1 h
    rw [allLines, List.forall_mem_append]
    exact ⟨here, forall_mem_linesAfter empty others⟩

/-- **Blocks in a row** are their texts with one empty line between them. The lines of all blocks
are joined at once on the left, and those of each block first on the right. -/
theorem allText_eq_spaced (blocks : List Block) : allText blocks = spaced (blocks.map text) := by
  induction blocks with
  | nil => rfl
  | cons block blocks ih =>
    cases blocks with
    | nil =>
      rw [List.map_singleton, spaced, List.intercalate_singleton, allText, allLines, linesAfter,
        List.append_nil, text]
    | cons block' blocks =>
      have later : "\n".intercalate ("" :: allLines (block' :: blocks)) =
          "\n" ++ "\n".intercalate (allLines (block' :: blocks)) :=
        String.intercalate_cons_of_ne_nil (allLines_cons_ne_nil block' blocks)
      rw [List.map_cons, List.map_cons, spaced, List.intercalate_cons_cons, ← List.map_cons,
        ← spaced, ← ih, allText, allLines, linesAfter, ← allLines,
        String.intercalate_append_of_ne_nil block.lines_ne_nil (List.cons_ne_nil _ _), later]
      simp [allText, text]

/-- No newline is in a line. -/
theorem newline_not_mem (block : Block) : ∀ line ∈ block.lines, '\n' ∉ line.toList := by
  induction block using induction with
  | paragraph attributes phrase => exact List.forall_mem_singleton.2 phrase.newline_not_mem
  | heading level attributes phrase =>
    refine List.forall_mem_singleton.2 ?_
    simp [phrase.newline_not_mem]
  | rule attributes => exact List.forall_mem_singleton.2 (by decide)
  | quote attributes first others ih =>
    rw [lines, List.forall_mem_map]
    intro line hline
    have hline' := forall_mem_allLines (P := ('\n' ∉ ·.toList)) List.not_mem_nil ih line hline
    simp [hline']

/-- **A quotation** has its mark before every line of what is in it. On the one side is
the definition of its lines, on the other what the rule for quotations does to a text. -/
theorem text_quote (attributes : List Attribute) (first : Block) (others : List Block) :
    (quote attributes first others).text = quoteLines (allText (first :: others)) := by
  have inside : Text.lines (allText (first :: others)) =
      (allLines (first :: others)).map String.toList := by
    rw [allText, String.toList_intercalate]
    refine Text.lines_intercalate ?_ (mt List.map_eq_nil_iff.1 (allLines_cons_ne_nil _ _))
    rw [List.forall_mem_map]
    exact forall_mem_allLines (P := ('\n' ∉ ·.toList)) List.not_mem_nil
      fun block _ => block.newline_not_mem
  calc (quote attributes first others).text
      = ['\n'].intercalate
          (((allLines (first :: others)).map ("> " ++ ·)).map String.toList) := by
        rw [text, lines, String.toList_intercalate, allLines]
        rfl
    _ = ['\n'].intercalate (Text.lines (quoteLines (allText (first :: others)))) := by
        rw [Rule.lines_quoteLines, inside, List.map_map, List.map_map]
        refine congrArg _ (List.map_congr_left fun line _ => ?_)
        exact String.toList_append
    _ = quoteLines (allText (first :: others)) := List.intercalate_splitOn '\n'

/-! ## The texts are tight

The text of a block neither begins nor ends with white space. So a rule that trims it and puts
blank lines around it gives back what it was given. -/

/-- A block of one line is that line as a text. -/
theorem text_of_lines_eq {line : String} (h : block.lines = [line]) : block.text = line.toList := by
  rw [text, h, String.intercalate_singleton]

/-- There is no newline in a single line, so only its ends can spoil it. -/
theorem isTight_text_of_lines_eq {line : String} (h : block.lines = [line])
    (framed : IsFramed line.toList) : IsTight block.text := by
  rw [text_of_lines_eq h]
  exact framed.isTight (block.newline_not_mem line (h ▸ List.mem_singleton_self line))

/-- There is no white space around a block. -/
theorem isTight_text (block : Block) : IsTight block.text := by
  induction block using induction with
  | paragraph attributes phrase => exact isTight_text_of_lines_eq rfl phrase.isFramed
  | heading level attributes phrase =>
    refine isTight_text_of_lines_eq rfl ?_
    obtain ⟨rest, c, heq, hc⟩ := phrase.isFramed.exists_concat
    rw [String.toList_append, String.toList_append, String.toList_ofList, heq,
      ← List.append_assoc]
    exact ⟨⟨'#', _, rfl, by decide⟩, ⟨_, c, rfl, hc⟩⟩
  | rule attributes =>
    exact isTight_text_of_lines_eq rfl
      ⟨⟨'*', _, rfl, by decide⟩, ⟨"* * ".toList, '*', rfl, by decide⟩⟩
  | quote attributes first others ih =>
    rw [text_quote, allText_eq_spaced]
    exact Rule.isTight_quoteLines
      (Text.isTight_spaced (List.forall_mem_map.2 ih) (List.cons_ne_nil _ _)).toIsFramed

end Block

end Tagdown
