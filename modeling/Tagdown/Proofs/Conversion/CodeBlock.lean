import Tagdown.Proofs.Conversion.Failure
import Tagdown.Proofs.Conversion.Leavings
import Tagdown.Proofs.Normalize.Idempotence
import Tagdown.Proofs.Rule.Bundled
import Tagdown.Proofs.Text.Lines

/-!
# Code blocks, in quotations and outside

Code in a `pre` is indented line by line, and a quotation puts its mark before each of these lines.
Between the two, white space is trimmed and newlines are made fewer, as if there was no code. What
this does to the code is told by `Converter.codeText`.

Outside of quotations the final form leaves one empty line of every run of blank lines. In a
quotation all of them stay, since each line has a mark before it, but for those that the code begins
with: they are trimmed with the indentation of the first line (`Converter.convertTree_quotedCode`).
-/

namespace Tagdown

open Rule (asBlock indentLines indentLines_eq indentation lines_quoteLines quoteLines quoteLines_eq
  toList_asBlock)
open Text (afterNewlines block isBlank isBlank_block isFilled isWhitespace lines mapChars
  squeezeBlanks tidy trimStartWhile)

/-! ## The document -/

namespace Rose

/-- Code in a `pre`. -/
def codeBlock (pre code : List Attribute) (value : String) : Rose Node :=
  ofElement "pre" pre [ofElement "code" code [ofText value]]

/-- A tree in quotations, one for each list of attributes. -/
def quoted (r : Rose Node) : List (List Attribute) → Rose Node
  | [] => r
  | attributes :: quotes => ofElement "blockquote" attributes [quoted r quotes]

variable {options : Options}

/-- Normalization leaves the code as it is, since it is preformatted. -/
theorem normal_codeBlock (pre code : List Attribute) (value : String) :
    Everywhere (Row.Normal {}) (codeBlock pre code value) := by
  refine everywhere_normal_singleton (Row.normal_element rfl)
    (everywhere_normal_singleton (Row.normal_preformatted ?_ ?_) (everywhere_of_text rfl))
  · show (true && Options.isPreformatted {} "code") = true
    decide
  · exact fun hkind => by cases hkind

/-- Quotations around it have nothing but elements in them. -/
theorem normal_quoted {r : Rose Node} (hr : r.kind.isElement = true)
    (normal : Everywhere (Row.Normal options) r) (quotes : List (List Attribute)) :
    (r.quoted quotes).kind.isElement = true ∧
      Everywhere (Row.Normal options) (r.quoted quotes) := by
  induction quotes with
  | nil => exact ⟨hr, normal⟩
  | cons attributes quotes ih =>
    exact ⟨rfl, everywhere_normal_singleton (Row.normal_element ih.1) ih.2⟩

end Rose

namespace Converter

open Tagdown.Tree (root)

/-! ## The text that is made of the code

`codeText` goes from the inside to the outside: the code is indented once, and each quotation
trims what it has and marks the lines. What is said of its lines is said by induction on the
number of quotations, with none of them as the case that differs. -/

/-- What stands before each line in `n` quotations. -/
def quotePrefix (n : Nat) : List Char :=
  (List.replicate n "> ".toList).flatten

/-- What becomes of code in `n` quotations, without the blank lines around it. The innermost
quotation trims the code, which takes the indentation of its first line. -/
def codeText (s : List Char) : Nat → List Char
  | 0 => indentation ++ indentLines s
  | n + 1 => quoteLines (trimStartWhile isWhitespace (codeText s n))

/-- A quotation begins with its mark. -/
theorem trimStartWhile_quoteLines (s : List Char) :
    trimStartWhile isWhitespace (quoteLines s) = quoteLines s :=
  Text.trimStartWhile_cons_of_not (by decide) _

/-- Outside of quotations the code loses the indentation of its first line when it is trimmed, and
no other. -/
theorem trimStartWhile_codeText_zero (s : List Char) :
    trimStartWhile isWhitespace (codeText s 0) =
      afterNewlines indentation (trimStartWhile isWhitespace s) :=
  Text.trimStartWhile_append_afterNewlines (by decide) (List.all_eq_true.1 (by decide)) s

variable {s : List Char}

/-- There is no run of newlines in it. -/
theorem collapseNewlines_trimStartWhile_codeText (s : List Char) (n : Nat) :
    Text.collapseNewlines (trimStartWhile isWhitespace (codeText s n)) =
      trimStartWhile isWhitespace (codeText s n) := by
  cases n with
  | zero =>
    rw [trimStartWhile_codeText_zero]
    exact Text.collapseNewlinesFrom_afterNewlines (by decide) (by decide) _
  | succ n =>
    rw [codeText, trimStartWhile_quoteLines, quoteLines_eq, Text.collapseNewlines,
      Text.collapseNewlinesFrom_append (by decide) (by decide),
      Text.collapseNewlinesFrom_afterNewlines (by decide) (by decide)]

/-- Code with something in it has something in it after that. -/
theorem isBlank_codeText (full : isBlank s = false) (n : Nat) : isBlank (codeText s n) = false := by
  cases n with
  | zero =>
    rw [codeText, indentLines_eq, isBlank, List.all_append, ← isBlank, ← isBlank,
      Text.isBlank_afterNewlines (by decide), full, Bool.and_false]
  | succ n => rfl

/-- A prefix after newlines does not change the end of a text that ends in something else. -/
theorem getLast?_append_afterNewlines {before pre : List Char} (hne : s ≠ [])
    (ends : ∀ c ∈ s.getLast?, isWhitespace c = false) :
    (before ++ afterNewlines pre s).getLast? = s.getLast? := by
  rw [List.getLast?_append, Text.getLast?_afterNewlines pre ends, List.getLast?_eq_some_getLast hne]
  rfl

/-- The code ends as it did. -/
theorem getLast?_codeText (full : isBlank s = false)
    (ends : ∀ c ∈ s.getLast?, isWhitespace c = false) (n : Nat) :
    (codeText s n).getLast? = s.getLast? := by
  induction n with
  | zero =>
    refine getLast?_append_afterNewlines ?_ ends
    rintro rfl
    cases full
  | succ n ih =>
    have inside := isBlank_codeText full n
    have last : (trimStartWhile isWhitespace (codeText s n)).getLast? = s.getLast? :=
      (Text.getLast?_trimStartWhile inside).trans ih
    exact (getLast?_append_afterNewlines (Text.trimStartWhile_ne_nil inside)
      (last ▸ ends)).trans last

/-- **The lines of code in quotations.** The first line with something in it has lost the white
space that it begins with, and blank lines before it are gone. -/
theorem lines_codeText_succ {blanks : List (List Char)} {first : List Char}
    {later : List (List Char)} (hs : lines s = blanks ++ first :: later)
    (hblanks : ∀ b ∈ blanks, isFilled b = false) (hfirst : isFilled first = true) (n : Nat) :
    lines (codeText s (n + 1)) = (quotePrefix (n + 1) ++ trimStartWhile isWhitespace first) ::
      later.map (quotePrefix (n + 1) ++ indentation ++ ·) := by
  induction n with
  | zero =>
    have hlines := Text.lines_trimStartWhile hfirst hblanks hs
    rw [codeText, lines_quoteLines, trimStartWhile_codeText_zero,
      Text.lines_afterNewlines (by decide) hlines, List.map_cons, List.map_map]
    rfl
  | succ n ih =>
    rw [codeText, lines_quoteLines, codeText, trimStartWhile_quoteLines, ← codeText, ih,
      List.map_cons, List.map_map]
    rfl

/-! ## What is left of it

The rules for `pre` and for quotations put blank lines around their text, which the next
quotation trims again. These cancel out, and `codeText` is left. -/

section Leavings

variable {N : Tree} {left : NodeId → List String} {x : NodeId} {value : String}
  (clean : N.Clean) (yields : standard.Yields N left)
  (full : isBlank value.toList = false)
  (ends : ∀ c ∈ value.toList.getLast?, isWhitespace c = false)
include clean yields full ends

/-- No rule is for code that is all a `pre` has in it, so it gives way to its text. The rule for
`pre` does the rest. -/
theorem left_codeBlock {pre code : List Attribute} (hx : N.Below root x)
    (hcontents : N.contents x = Rose.codeBlock pre code value) :
    left x = [asBlock (String.ofList (codeText value.toList 0))] := by
  have forest := clean.wellFormed.forest
  obtain ⟨helement, htag, hrow⟩ := Tree.of_contents_ofElement forest hcontents
  obtain ⟨d, hchildren, hcode⟩ := List.map_eq_singleton_iff.1 hrow
  obtain ⟨delement, dtag, -⟩ := Tree.of_contents_ofElement forest hcode
  have hd : N.Below root d := hx.trans (forest.below_of_mem (hchildren ▸ List.mem_singleton_self d))
  -- the text is all that is left in the code, which no rule is for
  have inside := yields.flatMap_left_of_text hd forest hcode
  have dleft : left d = [value] := by
    rw [(yields.leftBy hd delement).eq_of_unmatched (by rw [inside]; exact full), inside]
    intro n sees
    have hparent := sees.parent_any (forest.parent_of_split (l := []) hchildren) "pre"
    obtain ⟨hprevious, hnext⟩ := sees.siblings_eq (p := x) (l := []) (r := []) hchildren
    refine (RuleSet.standard_find?_of_code (sees.tagName_eq.trans dtag) _).trans (if_pos ?_)
    rw [Rule.isCodeBlock, hparent, htag, hprevious, hnext]
    rfl
  have here : (N.children x).flatMap left = [value] := by
    rw [hchildren, List.flatMap_singleton, dleft]
  obtain ⟨n, sees, left_eq⟩ := (yields.leftBy hx helement).eq_of_function
    (by rw [here]; exact full) (by rw [htag]; decide)
    (show Rule.codeBlock.replacement = .function _ from rfl)
    fun n hn => RuleSet.standard_find?_of_pre (hn.trans htag) _
  have last : Text.trimEndWhile (· == '\n') value.toList = value.toList :=
    Text.trimEndWhile_eq_self fun c hc => by
      rw [beq_eq_false_iff_ne]
      rintro rfl
      exact absurd (ends '\n' hc) (by decide)
  rw [left_eq, sees.textContent_eq, here, join_singleton, mapChars, last, codeText,
    String.ofList_append, indentation, String.ofList_toList]

/-- Each quotation trims what is in it and puts its mark before the lines. -/
theorem left_quoted {pre code : List Attribute} (quotes : List (List Attribute)) :
    ∀ {x}, N.Below root x → N.contents x = (Rose.codeBlock pre code value).quoted quotes →
      left x = [asBlock (String.ofList (codeText value.toList quotes.length))] := by
  induction quotes with
  | nil => exact fun hx hcontents => left_codeBlock clean yields full ends hx hcontents
  | cons attributes quotes ih =>
    intro x hx hcontents
    have forest := clean.wellFormed.forest
    obtain ⟨helement, htag, hrow⟩ := Tree.of_contents_ofElement forest hcontents
    obtain ⟨d, hchildren, hd⟩ := List.map_eq_singleton_iff.1 hrow
    have inside := isBlank_codeText full quotes.length
    have here : (N.children x).flatMap left =
        [asBlock (String.ofList (codeText value.toList quotes.length))] := by
      rw [hchildren, List.flatMap_singleton]
      exact ih (hx.trans (forest.below_of_mem (hchildren ▸ List.mem_singleton_self d))) hd
    -- what the rule is given is a block, and it trims that before it quotes
    have content : (String.join ((N.children x).flatMap left)).toList =
        block (codeText value.toList quotes.length) := by
      rw [here, join_singleton, toList_asBlock, String.toList_ofList]
    obtain ⟨n, -, left_eq⟩ := (yields.leftBy hx helement).eq_of_function
      (by rw [content, isBlank_block, inside]) (by rw [htag]; decide)
      (show Rule.blockquote.replacement = .function _ from rfl)
      fun n hn => RuleSet.standard_find?_of_blockquote (hn.trans htag) _
    rw [left_eq, mapChars, content, Text.trim_block (getLast?_codeText full ends _ ▸ ends) inside,
      collapseNewlines_trimStartWhile_codeText]
    rfl

end Leavings

variable {t : Tree} {value : String} {pre code : List Attribute} {quotes : List (List Attribute)}

/-- What becomes of code in quotations, but for the final form. -/
theorem convertTree_quoted (h : t.WellFormed) (bare : t.LeavesBare root)
    (hcontents : (t.contents root).merged =
      .node { label := .document } [(Rose.codeBlock pre code value).quoted quotes])
    (full : isBlank value.toList = false)
    (ends : ∀ c ∈ value.toList.getLast?, isWhitespace c = false) :
    standard.convertTree t = .ok (String.ofList
      (tidy (block (codeText value.toList quotes.length)))) := by
  obtain ⟨markdown, hmarkdown⟩ := exists_markdown_standard h
  obtain ⟨left, yields, rfl⟩ := exists_leavings h bare rfl hmarkdown
  have clean := Tree.clean_normalize h bare {}
  have forest := clean.wellFormed.forest
  obtain ⟨helement, normal⟩ :=
    Rose.normal_quoted rfl (Rose.normal_codeBlock pre code value) quotes
  -- the document is in its normal form, so normalization leaves what is asked of it
  have contents := Tree.contents_normalize_of_normal h hcontents
    (Rose.everywhere_normal_singleton (Row.normal_element helement) normal)
  obtain ⟨-, hrow⟩ := Tree.of_contents_inner forest contents rfl
  obtain ⟨x, hchildren, hx⟩ := List.map_eq_singleton_iff.1 hrow
  have hleft := left_quoted clean yields full ends quotes
    (forest.below_of_mem (hchildren ▸ List.mem_singleton_self x)) hx
  refine hmarkdown.trans (congrArg Except.ok ?_)
  show mapChars tidy (String.join ((((t.normalize {}).children root).flatMap left))) = _
  rw [hchildren, List.flatMap_singleton, hleft, join_singleton, mapChars, toList_asBlock,
    String.toList_ofList]

/-- The mark of a quotation is something in the line. -/
theorem isFilled_quotePrefix_succ_append (n : Nat) (l : List Char) :
    isFilled (quotePrefix (n + 1) ++ l) = true :=
  Text.isFilled_append (s := quotePrefix (n + 1)) rfl l

/-- **A code block line by line.** Outside of quotations each line is indented, and one empty line
is left of every run of blank lines after the first line. In quotations all lines stay from the
first one on that is not blank, with the marks of the quotations before them, and those after it are
indented. -/
theorem convertTree_quotedCode (h : t.WellFormed) (bare : t.LeavesBare root)
    (hcontents : (t.contents root).merged =
      .node { label := .document } [(Rose.codeBlock pre code value).quoted quotes])
    (full : isBlank value.toList = false)
    (ends : ∀ c ∈ value.toList.getLast?, isWhitespace c = false) :
    ∃ m, standard.convertTree t = .ok m ∧
      (quotes = [] → ∀ first later, lines value.toList = first :: later →
        lines m.toList =
          (indentation ++ first) :: squeezeBlanks (later.map (indentation ++ ·))) ∧
      (quotes ≠ [] → ∀ blanks first later, lines value.toList = blanks ++ first :: later →
        (∀ b ∈ blanks, isFilled b = false) → isFilled first = true →
        ∃ leading indent, leading.length ≤ blanks.length ∧
          (∀ b ∈ leading, ∃ w, isBlank w = true ∧ b = quotePrefix quotes.length ++ w) ∧
          isBlank indent = true ∧
          lines m.toList = leading ++
            (quotePrefix quotes.length ++ indent ++ trimStartWhile isWhitespace first) ::
              later.map (quotePrefix quotes.length ++ indentation ++ ·)) := by
  have last := getLast?_codeText full ends quotes.length
  have inside := isBlank_codeText full quotes.length
  have nonempty : codeText value.toList quotes.length ≠ [] := by
    intro hnil
    rw [hnil] at inside
    cases inside
  refine ⟨_, convertTree_quoted h bare hcontents full ends, ?_, ?_⟩
  -- outside of quotations the block is in its final form but for its blank lines
  · rintro rfl first later hlines
    rw [String.toList_ofList, Text.tidy_block (last ▸ ends) nonempty (by rintro _ ⟨⟩; decide)]
    refine Text.lines_collapseBlankLines (last ▸ ends) ?_
    exact (Text.lines_append_afterNewlines (by decide) value.toList).trans (by rw [hlines]; rfl)
  -- in quotations no line is blank, since each has a mark, and so no line is taken out
  · intro hquotes blanks first later hlines hblanks hfirst
    obtain ⟨attributes, quotes, rfl⟩ := List.exists_cons_of_ne_nil hquotes
    rw [List.length_cons] at last nonempty ⊢
    have codeLines := lines_codeText_succ hlines hblanks hfirst quotes.length
    have filled : ∀ l ∈ lines (codeText value.toList (quotes.length + 1)), isFilled l = true := by
      rw [codeLines, List.forall_mem_cons, List.forall_mem_map]
      refine ⟨isFilled_quotePrefix_succ_append _ _, fun l _ => ?_⟩
      rw [List.append_assoc]
      exact isFilled_quotePrefix_succ_append _ _
    refine ⟨[], [], Nat.zero_le _, List.forall_mem_nil _, rfl, ?_⟩
    rw [String.toList_ofList, Text.tidy_block (last ▸ ends) nonempty (by rintro _ ⟨⟩; decide),
      Text.collapseBlankLines_eq_self (Text.newlinesMeet_of_lines filled), codeLines,
      List.append_nil, List.nil_append]

/-- Code in a quotation. -/
def quotedLoop : Tree :=
  Tree.empty.run
    [.createElement "blockquote" [], .append root ⟨1⟩, .createElement "pre" [], .append ⟨1⟩ ⟨2⟩,
     .createElement "code" [], .append ⟨2⟩ ⟨3⟩, .createText "loop:\n\n\n  stop", .append ⟨3⟩ ⟨4⟩,
     .createComment "the end", .append root ⟨5⟩]

theorem convertTree_quotedCode_quotedLoop :
    quotedLoop.WellFormed ∧ quotedLoop.LeavesBare root ∧
      ∃ m indent, standard.convertTree quotedLoop = .ok m ∧ isBlank indent = true ∧
        lines m.toList =
          ["> ".toList ++ indent ++ "loop:".toList, ">     ".toList, ">     ".toList,
           ">       stop".toList] := by
  have h : quotedLoop.WellFormed := Tree.WellFormed.run _ Tree.wellFormed_empty
    (Tree.allAllowed_of_areAllowed (by decide +kernel))
  have bare : quotedLoop.LeavesBare root := Tree.leavesBare_of_forall_lt _ (by decide +kernel)
  have contents : (quotedLoop.contents root).merged = .node { label := .document }
      [(Rose.codeBlock [] [] "loop:\n\n\n  stop").quoted [[]]] := by decide +kernel
  obtain ⟨m, converted, -, quoted⟩ :=
    convertTree_quotedCode h bare contents (by decide) (by rintro _ ⟨⟩; decide)
  obtain ⟨leading, indent, hlength, -, blank, hlines⟩ := quoted (List.cons_ne_nil _ _)
    [] "loop:".toList [[], [], "  stop".toList] (by decide) (List.forall_mem_nil _) (by decide)
  obtain rfl := List.eq_nil_of_length_eq_zero (Nat.le_zero.1 hlength)
  exact ⟨h, bare, m, indent, converted, blank, hlines⟩

/-- Code with two blank lines in it. -/
def gappedCode : Tree :=
  Tree.empty.run
    [.createElement "pre" [], .append root ⟨1⟩, .createElement "code" [], .append ⟨1⟩ ⟨2⟩,
     .createText "a\n\n\nb", .append ⟨2⟩ ⟨3⟩]

/-- One of the two is gone. -/
theorem length_lines_gappedCode_ne :
    gappedCode.WellFormed ∧ gappedCode.LeavesBare root ∧
      (gappedCode.contents root).merged =
        .node { label := .document } [(Rose.codeBlock [] [] "a\n\n\nb").quoted []] ∧
      standard.convertTree gappedCode = .ok "    a\n\n    b" ∧
      (lines "    a\n\n    b".toList).length ≠ (lines "a\n\n\nb".toList).length := by
  have h : gappedCode.WellFormed := Tree.WellFormed.run _ Tree.wellFormed_empty
    (Tree.allAllowed_of_areAllowed (by decide +kernel))
  have bare : gappedCode.LeavesBare root := Tree.leavesBare_of_forall_lt _ (by decide +kernel)
  have contents : (gappedCode.contents root).merged = .node { label := .document }
      [(Rose.codeBlock [] [] "a\n\n\nb").quoted []] := by decide +kernel
  refine ⟨h, bare, contents, ?_, by decide⟩
  rw [convertTree_quoted h bare contents (by decide) (by rintro _ ⟨⟩; decide)]
  exact congrArg Except.ok (by decide +kernel)

end Converter

end Tagdown
