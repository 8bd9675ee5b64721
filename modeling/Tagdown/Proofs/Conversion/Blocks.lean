import Tagdown.Proofs.Conversion.Failure
import Tagdown.Proofs.Conversion.Leavings
import Tagdown.Proofs.Document.Blocks
import Tagdown.Proofs.Normalize.Idempotence
import Tagdown.Proofs.Rule.Bundled

/-!
# Paragraphs, headings, rules and quotations

Each rule for a block puts blank lines around it, whatever it stands next to, and a quotation puts
its mark before lines that other quotations may have marked already. What is left of a block is
nevertheless its text and the blank lines around that (`Converter.left_block`): a quotation trims
what is in it and leaves one empty line between two blocks before it marks the lines. The final form
does the same to the whole document (`Converter.convertTree_blocks`).
-/

namespace Tagdown.Converter

open Rule (asBlock quoteLines toList_asBlock)
open Tagdown.Tree (root)
open Text (mapChars tidy)

/-! ## What is left of a block

By induction on the block. The rules for blocks do not look at what stands beside the element, so
the case of each kind of block is about its own content. -/

section Kinds

variable {N : Tree} {left : NodeId → List String} {x : NodeId} {attributes : List Attribute}
  {blocks : List Block}

/-- Where each block leaves its text and the blank lines around it, so do blocks in a row. -/
theorem toList_join_of_blocks {ids : List NodeId}
    (hrow : ids.map N.contents = blocks.map Block.toRose)
    (inside : ∀ y ∈ ids, ∀ block ∈ blocks, N.contents y = block.toRose →
      left y = [asBlock (String.ofList block.text)]) :
    (String.join (ids.flatMap left)).toList = (blocks.map Block.text).flatMap Text.block := by
  rw [toList_join_flatMap, List.flatMap_map]
  refine flatMap_eq_of_map_eq hrow fun y hy block hblock hcontents => ?_
  rw [inside y hy block hblock hcontents, join_singleton, toList_asBlock,
    String.toList_ofList]

variable (clean : N.Clean) (yields : standard.Yields N left) (hx : N.Below root x)
include clean yields hx

/-- An element with words in it leaves what the rule for it makes of the words. -/
theorem left_phrase {tag : String} {phrase : Phrase}
    (hcontents : N.contents x = .ofElement tag attributes [.ofText phrase.text])
    (raw : Node.isRawTextTag tag = false) {key : String} {rule : Rule}
    {f : String → NodeRef → Options → String} (function : rule.replacement = .function f)
    (find : ∀ n : NodeRef, n.tagName = tag → RuleSet.standard.find? n {} = some (key, rule)) :
    ∃ n : NodeRef, n.tagName = tag ∧ left x = [f phrase.text n {}] := by
  have forest := clean.wellFormed.forest
  have inside : String.join ((N.children x).flatMap left) = phrase.text := by
    rw [yields.flatMap_left_of_text hx forest hcontents, join_singleton]
  obtain ⟨xelement, rfl, -⟩ := Tree.of_contents_ofElement forest hcontents
  obtain ⟨n, sees, left_eq⟩ := (yields.leftBy hx xelement).eq_of_function
    (by rw [inside]; exact phrase.isFramed.isBlank_eq_false) raw function find
  exact ⟨n, sees.tagName_eq, by rw [left_eq, inside]; rfl⟩

theorem left_paragraph {phrase : Phrase}
    (hcontents : N.contents x = (Block.paragraph attributes phrase).toRose) :
    left x = [asBlock phrase.text] := by
  obtain ⟨n, -, left_eq⟩ := left_phrase clean yields hx hcontents (by decide)
    (show Rule.paragraph.replacement = .function _ from rfl)
    fun n hn => RuleSet.standard_find?_of_paragraph hn _
  exact left_eq

theorem left_heading {level : Fin 6} {phrase : Phrase}
    (hcontents : N.contents x = (Block.heading level attributes phrase).toRose) :
    left x =
      [asBlock (String.ofList (List.replicate (level.val + 1) '#') ++ " " ++ phrase.text)] := by
  have tags : ∀ level, Block.headingTag level ∈ ["h1", "h2", "h3", "h4", "h5", "h6"] ∧
      Node.isRawTextTag (Block.headingTag level) = false ∧
      Rule.headingLevel (Block.headingTag level) = level.val + 1 := by decide
  obtain ⟨hmem, raw, hlevel⟩ := tags level
  obtain ⟨n, htag, left_eq⟩ := left_phrase clean yields hx hcontents raw
    (show Rule.heading.replacement = .function _ from rfl)
    fun n hn => RuleSet.standard_find?_of_heading (hn.symm ▸ hmem) _
  rw [left_eq, htag, hlevel]

/-- A rule has nothing in it, but it is an element that never has. -/
theorem left_rule (hcontents : N.contents x = (Block.rule attributes).toRose) :
    left x = [asBlock "* * *"] := by
  obtain ⟨xelement, xtag, -⟩ := Tree.of_contents_ofElement clean.wellFormed.forest hcontents
  obtain ⟨n, -, left_eq⟩ := (yields.leftBy hx xelement).eq_of_asked
    (fun n sees => Or.inl (by rw [sees.tagName_eq, xtag]; decide)) (by rw [xtag]; decide)
    (show Rule.horizontalRule.replacement = .function _ from rfl)
    fun n hn => RuleSet.standard_find?_of_rule (hn.trans xtag) _
  exact left_eq

/-- A quotation leaves its text, if the blocks in it leave theirs. -/
theorem left_quote {first : Block} {others : List Block}
    (hcontents : N.contents x = (Block.quote attributes first others).toRose)
    (inside : ∀ y ∈ N.children x, ∀ block ∈ first :: others, N.contents y = block.toRose →
      left y = [asBlock (String.ofList block.text)]) :
    left x = [asBlock (String.ofList (quoteLines (Block.allText (first :: others))))] := by
  have forest := clean.wellFormed.forest
  rw [Block.toRose_quote] at hcontents
  obtain ⟨xelement, xtag, hrow⟩ := Tree.of_contents_ofElement forest hcontents
  have here := toList_join_of_blocks hrow inside
  have tight : ∀ s ∈ (first :: others).map Block.text, Text.IsTight s :=
    List.forall_mem_map.2 fun block _ => block.isTight_text
  have nonempty : (first :: others).map Block.text ≠ [] := List.cons_ne_nil _ _
  have full : Text.isBlank (String.join ((N.children x).flatMap left)).toList = false := by
    rw [here, Text.flatMap_block nonempty, Text.isBlank_block]
    exact (Text.isFramed_intercalate_gap tight nonempty).isBlank_eq_false
  obtain ⟨n, -, left_eq⟩ := (yields.leftBy hx xelement).eq_of_function full
    (by rw [xtag]; decide) (show Rule.blockquote.replacement = .function _ from rfl)
    fun n hn => RuleSet.standard_find?_of_blockquote (hn.trans xtag) _
  rw [left_eq, mapChars, here, Text.collapseNewlines_trim_blocks tight,
    Block.allText_eq_spaced]

end Kinds

section Leavings

variable {N : Tree} {left : NodeId → List String} (clean : N.Clean)
  (yields : standard.Yields N left)
include clean yields

/-- **What is left of a block** is its text, with blank lines around it. By induction on the block,
and nothing is asked of what stands beside it. -/
theorem left_block (block : Block) : ∀ x, N.Below root x → N.contents x = block.toRose →
    left x = [asBlock (String.ofList block.text)] := by
  induction block using Block.induction with
  | paragraph attributes phrase =>
    intro x hx hcontents
    rw [left_paragraph clean yields hx hcontents, Block.text_of_lines_eq rfl, String.ofList_toList]
  | heading level attributes phrase =>
    intro x hx hcontents
    rw [left_heading clean yields hx hcontents, Block.text_of_lines_eq rfl, String.ofList_toList]
  | rule attributes =>
    intro x hx hcontents
    rw [left_rule clean yields hx hcontents, Block.text_of_lines_eq rfl, String.ofList_toList]
  | quote attributes first others ih =>
    intro x hx hcontents
    rw [Block.text_quote]
    exact left_quote clean yields hx hcontents fun y hy block hblock =>
      ih block hblock y (hx.trans (clean.wellFormed.forest.below_of_mem hy))

end Leavings

/-! ## Converting a document of blocks

The document has blocks below its root, with nothing around them but what the final form trims. -/

variable {t : Tree}

/-- **Documents of blocks.** A document of paragraphs, headings, rules and quotations is converted
to the lines of its blocks, with one empty line between two blocks and, at any depth, with the mark
of each quotation before every line that is in it. -/
theorem convertTree_blocks (h : t.WellFormed) (bare : t.LeavesBare root) {blocks : List Block}
    (hcontents : (t.contents root).merged =
      .node { label := .document } (blocks.map Block.toRose)) :
    standard.convertTree t = .ok ("\n".intercalate (Block.allLines blocks)) := by
  obtain ⟨markdown, hmarkdown⟩ := exists_markdown_standard h
  obtain ⟨left, yields, rfl⟩ := exists_leavings h bare rfl hmarkdown
  have clean := Tree.clean_normalize h bare {}
  have forest := clean.wellFormed.forest
  have contents := Tree.contents_normalize_of_normal h hcontents
    (Block.everywhere_normal_blocks fun block _ => block.normal {})
  obtain ⟨-, hrow⟩ := Tree.of_contents_inner forest contents rfl
  have here := toList_join_of_blocks hrow fun y hy block _ =>
    left_block clean yields block y (forest.below_of_mem hy)
  refine hmarkdown.trans (congrArg Except.ok ?_)
  show mapChars tidy (String.join (((t.normalize {}).children root).flatMap left)) = _
  rw [mapChars, here, Text.tidy_blocks (List.forall_mem_map.2 fun block _ => block.isTight_text),
    ← Block.allText_eq_spaced, Block.allText, String.ofList_toList]

/-- An answer to a letter, with the letter in it. -/
def answer : Tree :=
  Tree.empty.run
    [.createElement "h2" [], .append root ⟨1⟩, .createText "On the", .append ⟨1⟩ ⟨2⟩,
     .createText " move", .append ⟨1⟩ ⟨3⟩, .createElement "hr" [], .append root ⟨4⟩,
     .createElement "blockquote" [], .append root ⟨5⟩, .createElement "p" [], .append ⟨5⟩ ⟨6⟩,
     .createText "He asks:", .append ⟨6⟩ ⟨7⟩, .createElement "blockquote" [], .append ⟨5⟩ ⟨8⟩,
     .createElement "p" [], .append ⟨8⟩ ⟨9⟩, .createText "When?", .append ⟨9⟩ ⟨10⟩,
     .createElement "p" [], .append ⟨8⟩ ⟨11⟩, .createText "And how?", .append ⟨11⟩ ⟨12⟩,
     .createComment "no answer yet", .append root ⟨13⟩, .createElement "p" [], .append root ⟨14⟩,
     .createText "Soon.", .append ⟨14⟩ ⟨15⟩]

theorem convertTree_blocks_answer :
    answer.WellFormed ∧ answer.LeavesBare root ∧ standard.convertTree answer =
      .ok "## On the move\n\n* * *\n\n> He asks:\n> \n> > When?\n> > \n> > And how?\n\nSoon." := by
  have h : answer.WellFormed := Tree.WellFormed.run _ Tree.wellFormed_empty
    (Tree.allAllowed_of_areAllowed (by decide +kernel))
  have bare : answer.LeavesBare root := Tree.leavesBare_of_forall_lt _ (by decide +kernel)
  let letter : Block := .quote [] (.paragraph [] ⟨["When?"], by decide, by decide⟩)
    [.paragraph [] ⟨["And", "how?"], by decide, by decide⟩]
  let blocks : List Block :=
    [.heading 1 [] ⟨["On", "the", "move"], by decide, by decide⟩, .rule [],
     .quote [] (.paragraph [] ⟨["He", "asks:"], by decide, by decide⟩) [letter],
     .paragraph [] ⟨["Soon."], by decide, by decide⟩]
  have contents : (answer.contents root).merged =
      .node { label := .document } (blocks.map Block.toRose) := by decide +kernel
  refine ⟨h, bare, (convertTree_blocks h bare contents).trans ?_⟩
  exact congrArg Except.ok (by decide +kernel)

end Tagdown.Converter
