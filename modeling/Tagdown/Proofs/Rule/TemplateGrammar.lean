import Tagdown.Rule.Template

/-!
# The grammar of templates

A template is a row of pieces, and a piece is a text without braces, a brace written twice, or a
placeholder with one of the names that there are (`Piece`, `IsTemplate`). This says what a template
is without reading one, and `render_iff_isTemplate` that to fill in a template reads just this: it
succeeds for the texts of this form and for no others, whatever is put in for the placeholders, and
then each piece has become what it stands for.

The reader goes from left to right and looks one character ahead, and that is enough. A brace that
opens is followed by another one or by a name, and no name begins with a brace.
-/

namespace Tagdown.Template

/-- A piece of a template. -/
inductive Piece where
  | literal (text : String)
  | openBrace
  | closeBrace
  | content
  | tag
  | attribute (name : String)

namespace Piece

/-- A literal has no braces in it. The name of an attribute has none that closes, and is not
empty. -/
def Valid : Piece → Prop
  | literal text => '{' ∉ text.toList ∧ '}' ∉ text.toList
  | «attribute» name => name ≠ "" ∧ '}' ∉ name.toList
  | _ => True

/-- How the piece is written. -/
def spelling : Piece → String
  | literal text => text
  | openBrace => "\x7b\x7b"
  | closeBrace => "\x7d\x7d"
  | content => "\x7bcontent\x7d"
  | tag => "\x7btag\x7d"
  | «attribute» name => "\x7battr:" ++ name ++ "\x7d"

/-- What the piece stands for. -/
def expansion (inner : String) (node : NodeRef) : Piece → String
  | literal text => text
  | openBrace => "\x7b"
  | closeBrace => "\x7d"
  | content => inner
  | tag => node.tagName
  | «attribute» name => (node.attribute? name).getD ""

/-- The segments that a reader finds in the piece: a literal is read character by character. -/
def segments : Piece → List Segment
  | literal text => text.toList.map .literal
  | openBrace => [.openBrace]
  | closeBrace => [.closeBrace]
  | content => [.content]
  | tag => [.tag]
  | «attribute» name => [.attribute name]

end Piece

/-- The text is a row of pieces. -/
def IsTemplate (text : String) : Prop :=
  ∃ pieces : List Piece, (∀ p ∈ pieces, p.Valid) ∧ text = String.join (pieces.map Piece.spelling)

/-- Every brace written twice. -/
def doubleBraces (text : String) : String :=
  Text.mapChars (·.flatMap fun c => if c = '{' ∨ c = '}' then [c, c] else [c]) text

/-! ## Reading what is written

The parser has no separate tokenizer: it goes through characters with the name of a placeholder
gathered so far, or with none. Each kind of piece is followed through it to its end. -/

/-- The name of a placeholder is read to the first brace that closes. -/
theorem parseFrom_some (rest : List Char) :
    ∀ (name pending : List Char), '}' ∉ name →
      parseFrom (some pending) (name ++ '}' :: rest) =
        (placeholder (pending.reverse ++ name)).bind fun segment =>
          (parseFrom none rest).map (segment :: ·) := by
  intro name
  induction name with
  | nil =>
    intro pending _
    rw [List.nil_append, parseFrom, List.append_nil]
    cases placeholder pending.reverse <;> rfl
  | cons c name ih =>
    intro pending hname
    rw [List.mem_cons, not_or] at hname
    rw [List.cons_append, parseFrom, ih (c :: pending) hname.2, List.reverse_cons,
      List.append_assoc, List.singleton_append]
    exact fun h => hname.1 h.symm

/-- A brace opens a placeholder unless another one follows it, in which case it is a brace. -/
theorem parseFrom_placeholder {name : List Char} {segment : Segment} (hopen : name.head? ≠ some '{')
    (hclose : '}' ∉ name) (hname : placeholder name = .ok segment) (rest : List Char) :
    parseFrom none ('{' :: (name ++ '}' :: rest)) =
      (parseFrom none rest).map (segment :: ·) := by
  have hread : parseFrom none ('{' :: (name ++ '}' :: rest)) =
      parseFrom (some []) (name ++ '}' :: rest) := by
    cases name with
    | nil => rfl
    | cons c name =>
      rw [List.cons_append, parseFrom]
      rintro tail ⟨⟩
      exact hopen rfl
  rw [hread, parseFrom_some rest name [] hclose, List.reverse_nil, List.nil_append, hname]
  rfl

/-- Every other character stands for itself. -/
theorem parseFrom_literal {c : Char} (hopen : c ≠ '{') (hclose : c ≠ '}') (rest : List Char) :
    parseFrom none (c :: rest) = (parseFrom none rest).map (.literal c :: ·) := by
  rw [parseFrom]
  all_goals simp_all

/-- So does a text without braces. -/
theorem parseFrom_literals (rest : List Char) :
    ∀ text : List Char, '{' ∉ text → '}' ∉ text →
      parseFrom none (text ++ rest) = (parseFrom none rest).map (text.map .literal ++ ·) := by
  intro text
  induction text with
  | nil =>
    intro _ _
    rw [List.nil_append]
    cases parseFrom none rest <;> rfl
  | cons c text ih =>
    intro hopen hclose
    rw [List.mem_cons, not_or] at hopen hclose
    rw [List.cons_append, parseFrom_literal (Ne.symm hopen.1) (Ne.symm hclose.1),
      ih hopen.2 hclose.2]
    cases parseFrom none rest <;> rfl

/-- An attribute can have any name but the empty one, and the parser takes the whole rest as that
name. -/
theorem placeholder_attribute {name : String} (h : name ≠ "") :
    placeholder ("attr:".toList ++ name.toList) = .ok (.attribute name) := by
  obtain ⟨c, rest, hname⟩ : ∃ c rest, name.toList = c :: rest := by
    refine List.exists_cons_of_ne_nil fun hnil => h ?_
    exact String.toList_inj.1 hnil
  have hback : String.ofList (c :: rest) = name := by rw [← hname, String.ofList_toList]
  rw [hname, ← hback]
  rfl

/-- A piece is read as its segments, whatever follows it. -/
theorem parseFrom_spelling {p : Piece} (h : p.Valid) (rest : List Char) :
    parseFrom none (p.spelling.toList ++ rest) = (parseFrom none rest).map (p.segments ++ ·) := by
  cases p with
  | literal text => exact parseFrom_literals rest text.toList h.1 h.2
  | openBrace => rfl
  | closeBrace => rfl
  | content =>
    show parseFrom none ('{' :: ("content".toList ++ '}' :: rest)) = _
    exact parseFrom_placeholder (by decide) (by decide) rfl rest
  | tag =>
    show parseFrom none ('{' :: ("tag".toList ++ '}' :: rest)) = _
    exact parseFrom_placeholder (by decide) (by decide) rfl rest
  | «attribute» name =>
    have hclose : '}' ∉ "attr:".toList ++ name.toList := by
      rw [List.mem_append, not_or]
      exact ⟨by decide, h.2⟩
    have hread := parseFrom_placeholder (by simp) hclose (placeholder_attribute h.1) rest
    simpa [Piece.spelling, Piece.segments] using hread

/-- Pieces are read one after the other, each as what it was written for. -/
theorem parse_join (pieces : List Piece) (h : ∀ p ∈ pieces, p.Valid) :
    parse (String.join (pieces.map Piece.spelling)) = .ok (pieces.flatMap Piece.segments) := by
  rw [parse]
  induction pieces with
  | nil => rfl
  | cons p pieces ih =>
    rw [List.map_cons, String.join_cons, String.toList_append,
      parseFrom_spelling (h p List.mem_cons_self), ih fun q hq => h q (List.mem_cons_of_mem p hq)]
    rfl

/-! ## Nothing else is read

Conversely, where the parser succeeds, it has read a piece, and what is left is shorter and is
read as well. So the text is a row of pieces by induction on its length. -/

/-- A name that stands for a segment is the name of a piece. -/
theorem exists_piece_of_placeholder {name : List Char} {segment : Segment} (hclose : '}' ∉ name)
    (h : placeholder name = .ok segment) :
    ∃ p : Piece, p.Valid ∧ p.spelling.toList = '{' :: (name ++ ['}']) := by
  rw [placeholder.eq_def] at h
  split at h
  · rename_i hname
    exact ⟨.content, trivial, by rw [hname]; rfl⟩
  split at h
  · rename_i hname
    exact ⟨.tag, trivial, by rw [hname]; rfl⟩
  split at h
  · rename_i c rest _ _
    refine ⟨.attribute (String.ofList (c :: rest)), ⟨?_, ?_⟩, ?_⟩
    · intro hempty
      have := congrArg String.toList hempty
      simp at this
    · simp_all
    · simp [Piece.spelling]
  · cases h

/-- What is read in a placeholder. -/
theorem exists_name_of_parseFrom_some {segments : List Segment} :
    ∀ (text pending : List Char), parseFrom (some pending) text = .ok segments →
      ∃ name rest segment segments', text = name ++ '}' :: rest ∧ '}' ∉ name ∧
        placeholder (pending.reverse ++ name) = .ok segment ∧
        parseFrom none rest = .ok segments' := by
  intro text
  induction text with
  | nil =>
    intro pending h
    rw [parseFrom] at h
    cases h
  | cons c text ih =>
    intro pending h
    -- the name ends here, or it goes on
    by_cases hc : c = '}'
    · subst hc
      rw [parseFrom] at h
      split at h
      · rename_i segment hsegment
        cases hrest : parseFrom none text with
        | error fault =>
          rw [hrest] at h
          cases h
        | ok segments' => exact ⟨[], text, segment, segments', rfl, by simp, by simpa, hrest⟩
      · cases h
    · rw [parseFrom] at h
      · obtain ⟨name, rest, segment, segments', rfl, hname, hsegment, hrest⟩ := ih (c :: pending) h
        refine ⟨c :: name, rest, segment, segments', rfl, ?_, ?_, hrest⟩
        · simpa [hname] using Ne.symm hc
        · simpa using hsegment
      · exact hc

/-- A result that comes through `map` was one before it. -/
theorem exists_ok_of_map {α β : Type} {x : Except Fault α} {f : α → β} {b : β}
    (h : x.map f = .ok b) : ∃ a, x = .ok a := by
  cases x with
  | error fault => cases h
  | ok a => exact ⟨a, rfl⟩

/-- What is read begins with a piece, and the text behind it is read too. -/
theorem exists_first_piece {c : Char} {text : List Char} {segments : List Segment}
    (h : parseFrom none (c :: text) = .ok segments) :
    ∃ (p : Piece) (rest : List Char) (segments' : List Segment), p.Valid ∧
      c :: text = p.spelling.toList ++ rest ∧ rest.length ≤ text.length ∧
      parseFrom none rest = .ok segments' := by
  by_cases hopen : c = '{'
  · subst hopen
    by_cases hsecond : text.head? = some '{'
    · obtain ⟨rest, rfl⟩ := List.head?_eq_some_iff.1 hsecond
      rw [parseFrom] at h
      obtain ⟨segments', hrest⟩ := exists_ok_of_map h
      exact ⟨.openBrace, rest, segments', trivial, rfl, by simp, hrest⟩
    · rw [parseFrom] at h
      · obtain ⟨name, rest, segment, segments', rfl, hname, hsegment, hrest⟩ :=
          exists_name_of_parseFrom_some text [] h
        obtain ⟨p, hp, hspelling⟩ := exists_piece_of_placeholder hname hsegment
        refine ⟨p, rest, segments', hp, by simp [hspelling], ?_, hrest⟩
        simp
        omega
      · rintro rest rfl
        exact hsecond rfl
  by_cases hclose : c = '}'
  · subst hclose
    by_cases hsecond : text.head? = some '}'
    · obtain ⟨rest, rfl⟩ := List.head?_eq_some_iff.1 hsecond
      rw [parseFrom] at h
      obtain ⟨segments', hrest⟩ := exists_ok_of_map h
      exact ⟨.closeBrace, rest, segments', trivial, rfl, by simp, hrest⟩
    · rw [parseFrom] at h
      · cases h
      · rintro rest rfl
        exact hsecond rfl
  · rw [parseFrom_literal hopen hclose] at h
    obtain ⟨segments', hrest⟩ := exists_ok_of_map h
    refine ⟨.literal (String.singleton c), text, segments', ?_, ?_, Nat.le_refl _, hrest⟩
    · simpa [Piece.Valid] using ⟨Ne.symm hopen, Ne.symm hclose⟩
    · simp [Piece.spelling]

/-- Whatever is read is a row of pieces. -/
theorem exists_pieces_of_parseFrom (n : Nat) :
    ∀ (text : List Char) (segments : List Segment), text.length ≤ n →
      parseFrom none text = .ok segments →
      ∃ pieces : List Piece, (∀ p ∈ pieces, p.Valid) ∧
        text = pieces.flatMap fun p => p.spelling.toList := by
  induction n with
  | zero =>
    intro text segments hlen _
    obtain rfl := List.length_eq_zero_iff.1 (Nat.le_zero.1 hlen)
    exact ⟨[], by simp, rfl⟩
  | succ n ih =>
    intro text segments hlen h
    cases text with
    | nil => exact ⟨[], by simp, rfl⟩
    | cons c text =>
      obtain ⟨p, rest, segments', hp, htext, hshort, hrest⟩ := exists_first_piece h
      rw [List.length_cons] at hlen
      obtain ⟨pieces, hpieces, hspelled⟩ := ih rest segments' (by omega) hrest
      refine ⟨p :: pieces, ?_, by rw [htext, hspelled, List.flatMap_cons]⟩
      intro q hq
      rcases List.mem_cons.1 hq with rfl | hq
      · exact hp
      · exact hpieces q hq

/-- Together: a template is read just if it can be written. -/
theorem isTemplate_of_parse {template : String} {segments : List Segment}
    (h : parse template = .ok segments) : IsTemplate template := by
  obtain ⟨pieces, hpieces, hspelled⟩ :=
    exists_pieces_of_parseFrom _ template.toList segments (Nat.le_refl _) h
  refine ⟨pieces, hpieces, String.toList_inj.1 ?_⟩
  rw [hspelled, String.toList_join, List.flatMap_map]

/-! ## Filling in

A template is filled in segment by segment. Nothing can go wrong any more, and so neither the
node nor its content has a say in whether there is a result. -/

/-- Joining in two steps is joining at once. -/
theorem join_flatMap {α : Type} (f : α → List String) (xs : List α) :
    String.join (xs.flatMap f) = String.join (xs.map fun x => String.join (f x)) := by
  induction xs with
  | nil => rfl
  | cons x xs ih =>
    rw [List.flatMap_cons, String.join_append, List.map_cons, String.join_cons, ih]

/-- A piece may be several segments, and they are filled in to what the piece stands for. -/
theorem join_fill_segments (inner : String) (node : NodeRef) (p : Piece) :
    String.join (p.segments.map (·.fill inner node)) = p.expansion inner node := by
  cases p with
  | literal text =>
    refine String.toList_inj.1 ?_
    simp [Piece.segments, Piece.expansion, Segment.fill, List.flatMap_map]
  | _ => simp [Piece.segments, Piece.expansion, Segment.fill]

/-- A row of pieces is filled in piece by piece. -/
theorem render_join (pieces : List Piece) (h : ∀ p ∈ pieces, p.Valid) (inner : String)
    (node : NodeRef) :
    render (String.join (pieces.map Piece.spelling)) inner node =
      .ok (String.join (pieces.map (·.expansion inner node))) := by
  rw [render, parse_join pieces h, Except.map, List.map_flatMap, join_flatMap]
  simp only [join_fill_segments]

/-- A brace written twice is a piece, and so is any other character. -/
def escapePiece (c : Char) : Piece :=
  if c = '{' then .openBrace else if c = '}' then .closeBrace else .literal (String.singleton c)

/-- Escaped this way, any character is a piece that can be written. -/
theorem valid_escapePiece (c : Char) : (escapePiece c).Valid := by
  rw [escapePiece]
  split
  · trivial
  split
  · trivial
  · simp_all [Piece.Valid, eq_comm]

/-- It is written as `doubleBraces` writes it, -/
theorem toList_spelling_escapePiece (c : Char) :
    (escapePiece c).spelling.toList = if c = '{' ∨ c = '}' then [c, c] else [c] := by
  rw [escapePiece]
  split
  · simp_all [Piece.spelling]
  · split <;> simp_all [Piece.spelling]

/-- and it stands for the character. -/
theorem toList_expansion_escapePiece (c : Char) (inner : String) (node : NodeRef) :
    ((escapePiece c).expansion inner node).toList = [c] := by
  rw [escapePiece]
  split
  · simp_all [Piece.expansion]
  · split <;> simp_all [Piece.expansion]

/-- A text with its braces doubled comes out as it was, for every node and content. -/
theorem render_doubleBraces (text inner : String) (node : NodeRef) :
    render (doubleBraces text) inner node = .ok text := by
  have spelled : doubleBraces text =
      String.join ((text.toList.map escapePiece).map Piece.spelling) := by
    refine String.toList_inj.1 ?_
    simp [doubleBraces, List.flatMap_map, toList_spelling_escapePiece]
  have expanded :
      String.join ((text.toList.map escapePiece).map (·.expansion inner node)) = text := by
    refine String.toList_inj.1 ?_
    simp [List.flatMap_map, toList_expansion_escapePiece]
  rw [spelled, render_join, expanded]
  intro p hp
  obtain ⟨c, -, rfl⟩ := List.mem_map.1 hp
  exact valid_escapePiece c

/-- **What is filled in is a template.** To fill in a text succeeds just when it is a row of pieces,
and the result is the row of what these stand for. Whether it succeeds, and the fault if it does
not, is the same for all nodes and contents. A text with every brace written twice is a template
that becomes the text itself. -/
theorem render_iff_isTemplate (template inner : String) (node : NodeRef) :
    ((∃ out, render template inner node = .ok out) ↔ IsTemplate template) ∧
    (∀ pieces : List Piece, (∀ p ∈ pieces, p.Valid) →
      template = String.join (pieces.map Piece.spelling) →
      render template inner node = .ok (String.join (pieces.map (·.expansion inner node)))) ∧
    (∀ fault inner' node', render template inner node = .error fault ↔
      render template inner' node' = .error fault) ∧
    ∀ text, render (doubleBraces text) inner node = .ok text := by
  refine ⟨⟨?_, ?_⟩, ?_, ?_, ?_⟩
  · rintro ⟨out, h⟩
    obtain ⟨segments, hparse⟩ := exists_ok_of_map h
    exact isTemplate_of_parse hparse
  · rintro ⟨pieces, hpieces, rfl⟩
    exact ⟨_, render_join pieces hpieces inner node⟩
  · rintro pieces hpieces rfl
    exact render_join pieces hpieces inner node
  · intro fault inner' node'
    rw [render, render]
    cases parse template <;> simp [Except.map]
  · exact fun text => render_doubleBraces text inner node

/-- A link in braces, with an attribute whose name begins with a brace. -/
def linkPieces : List Piece :=
  [.openBrace, .content, .closeBrace, .literal " (", .attribute "\x7bh\u00e9", .literal ")"]

/-- An element that has this attribute, with a brace in its value. -/
def linkNode : NodeRef :=
  ⟨(Tree.empty.createElement "a" [⟨"\x7bh\u00e9", "x\x7d"⟩]).1, ⟨1⟩⟩

theorem render_iff_isTemplate_link :
    (∀ p ∈ linkPieces, p.Valid) ∧
      render "\x7b\x7b\x7bcontent\x7d\x7d\x7d (\x7battr:\x7bh\u00e9\x7d)" "\x7b" linkNode =
        .ok "\x7b\x7b\x7d (x\x7d)" := by
  have valid : ∀ p ∈ linkPieces, p.Valid := by
    simp [linkPieces, Piece.Valid]
  refine ⟨valid, ?_⟩
  rw [(render_iff_isTemplate _ "\x7b" linkNode).2.1 linkPieces valid (by decide)]
  exact congrArg Except.ok (by decide +kernel)

end Tagdown.Template
