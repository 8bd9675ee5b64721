import Tagdown.Html.Reference

/-!
# Cutting HTML into tokens

`nextTokens` takes the first token, or a few that belong together, from a text. It always takes
at least one character, whatever the text is: what is not well formed becomes text, or a
comment, or is left out.
-/

namespace Tagdown.Html

open Text (asciiLowerChar isAsciiLetter)

/-! ## Tags -/

/-- The character ends the name of a tag. -/
def endsTagName (c : Char) : Bool :=
  isSpace c || c == '/' || c == '>'

/-- The character ends the name of an attribute. -/
def endsAttributeName (c : Char) : Bool :=
  endsTagName c || c == '='

/-- Add an attribute, unless there is one with its name. -/
def addAttribute (attributes : List Attribute) (name value : String) : List Attribute :=
  if attributes.any (·.name == name) then attributes else attributes ++ [⟨name, value⟩]

/-- A value up to the given quote, which is passed over. -/
def readQuotedValue? (quote : Char) (s : List Char) : Option (String × List Char) :=
  match s.dropWhile (· != quote) with
  | _ :: rest => some (attributeValue (s.takeWhile (· != quote)), rest)
  | [] => none

/-- The value of an attribute after its equals sign. -/
def readValue? (s : List Char) : Option (String × List Char) :=
  match s.dropWhile isSpace with
  | [] => none
  | '"' :: rest => readQuotedValue? '"' rest
  | '\'' :: rest => readQuotedValue? '\'' rest
  | rest =>
    let inValue (c : Char) : Bool := !isSpace c && c != '>'
    some (attributeValue (rest.takeWhile inValue), rest.dropWhile inValue)

/-- Dropping characters makes no text longer. -/
theorem length_dropWhile_le (p : Char → Bool) (s : List Char) :
    (s.dropWhile p).length ≤ s.length :=
  (List.dropWhile_sublist p).length_le

/-- A value in quotes is read from the front of the text. -/
theorem length_le_of_readQuotedValue? {quote : Char} {s rest : List Char} {value : String}
    (h : readQuotedValue? quote s = some (value, rest)) : rest.length ≤ s.length := by
  have := length_dropWhile_le (· != quote) s
  grind [readQuotedValue?]

/-- A value is read from the front of the text. -/
theorem length_le_of_readValue? {s rest : List Char} {value : String}
    (h : readValue? s = some (value, rest)) : rest.length ≤ s.length := by
  have hs := length_dropWhile_le isSpace s
  unfold readValue? at h
  split at h
  case h_1 => cases h
  case h_2 hd | h_3 hd =>
    have := length_le_of_readQuotedValue? h
    rw [hd, List.length_cons] at hs
    omega
  case h_4 =>
    cases h
    exact Nat.le_trans (length_dropWhile_le _ _) hs

/-- What follows the name of a tag: the attributes, whether there is a slash at the end, and
what is left of the text. A tag that does not end is none. -/
def readAttributes? (attributes : List Attribute) (s : List Char) :
    Option (List Attribute × Bool × List Char) :=
  match _h : s.dropWhile isSpace with
  | [] => none
  | '>' :: rest => some (attributes, false, rest)
  | '/' :: '>' :: rest => some (attributes, true, rest)
  | '/' :: rest => readAttributes? attributes rest
  | c :: more =>
    let name := nameOf (c :: more.takeWhile (!endsAttributeName ·))
    match _hName : (more.dropWhile (!endsAttributeName ·)).dropWhile isSpace with
    | '=' :: afterName =>
      match _hValue : readValue? afterName with
      | some (value, rest) => readAttributes? (addAttribute attributes name value) rest
      | none => none
    | rest => readAttributes? (addAttribute attributes name "") rest
termination_by s.length
decreasing_by
  all_goals
    have := length_dropWhile_le isSpace s
    simp only [_h, List.length_cons] at this
  · omega
  · have := length_dropWhile_le (!endsAttributeName ·) more
    have := length_dropWhile_le isSpace (more.dropWhile (!endsAttributeName ·))
    have := length_le_of_readValue? _hValue
    simp only [_hName, List.length_cons] at *
    omega
  · have := length_dropWhile_le (!endsAttributeName ·) more
    have := length_dropWhile_le isSpace (more.dropWhile (!endsAttributeName ·))
    rw [_hName] at this
    omega

/-- A tag from the first letter of its name on. -/
def readTag? (s : List Char) : Option (StartTag × List Char) :=
  let rest := s.dropWhile (!endsTagName ·)
  (readAttributes? [] rest).map fun (attributes, selfClosing, rest) =>
    ({ name := nameOf (s.takeWhile (!endsTagName ·)), attributes, selfClosing }, rest)

/-! ## Comments and declarations -/

/-- Where the end of a comment may be near. -/
inductive CommentState where
  /-- right after the opening -/
  | start
  /-- after the opening and a hyphen -/
  | startDash
  | inside
  /-- after a hyphen -/
  | dash
  /-- after two hyphens -/
  | dashes
  /-- after two hyphens and an exclamation mark -/
  | bang

/-- The characters that were held back because the comment might have ended with them. -/
def CommentState.heldBack : CommentState → List Char
  | start => []
  | startDash => ['-']
  | inside => []
  | dash => ['-']
  | dashes => ['-', '-']
  | bang => ['-', '-', '!']

/-- Read a comment; `done` is what it says so far, last character first. The end of the text
also ends it. -/
def readCommentFrom (done : List Char) : CommentState → List Char → String × List Char
  | _, [] => (String.ofList done.reverse, [])
  | state, c :: rest =>
    let goOn (state' : CommentState) (more : List Char) : String × List Char :=
      readCommentFrom ((state.heldBack ++ more).reverse ++ done) state' rest
    let wait (state' : CommentState) : String × List Char := readCommentFrom done state' rest
    match state, c with
    | .start, '-' => wait .startDash
    | .start, '>' => (String.ofList done.reverse, rest)
    | .startDash, '-' => wait .dashes
    | .startDash, '>' => (String.ofList done.reverse, rest)
    | .inside, '-' => wait .dash
    | .dash, '-' => wait .dashes
    | .dashes, '>' => (String.ofList done.reverse, rest)
    | .dashes, '!' => wait .bang
    | .dashes, '-' => readCommentFrom ('-' :: done) .dashes rest
    | .bang, '-' => readCommentFrom (['-', '-', '!'].reverse ++ done) .dash rest
    | .bang, '>' => (String.ofList done.reverse, rest)
    | _, c => goOn .inside [replaceNul c]

/-- A declaration or instruction that is none of HTML: all up to the next `>` is a comment. -/
def readBogusComment (s : List Char) : List Token × List Char :=
  let value := String.ofList ((s.takeWhile (· != '>')).map replaceNul)
  ([.comment value], (s.dropWhile (· != '>')).drop 1)

/-- The text begins with the word, whatever the case of its letters. -/
def startsWithWord (word : String) (s : List Char) : Bool :=
  (s.take word.toList.length).map asciiLowerChar == word.toList

/-- Characters up to `]]>`, as they are. -/
def readCdata : List Char → List Char × List Char
  | [] => ([], [])
  | ']' :: ']' :: '>' :: rest => ([], rest)
  | c :: rest =>
    let (chars, rest) := readCdata rest
    (c :: chars, rest)

/-- What follows `<!`. Sections of plain characters are only for elements that are not of
HTML. -/
def readDeclaration (cdataAllowed : Bool) (s : List Char) : List Token × List Char :=
  match s with
  | '-' :: '-' :: rest =>
    let (value, rest) := readCommentFrom [] .start rest
    ([.comment value], rest)
  | s =>
    if startsWithWord "doctype" s then ([.gap], (s.dropWhile (· != '>')).drop 1)
    else if cdataAllowed && s.take 7 == "[CDATA[".toList then
      let (chars, rest) := readCdata (s.drop 7)
      (chars.map .char, rest)
    else readBogusComment s

/-! ## Text with tags -/

/-- What follows `<`. -/
def readMarkup (cdataAllowed : Bool) (s : List Char) : List Token × List Char :=
  match s with
  | '!' :: rest => readDeclaration cdataAllowed rest
  | '/' :: '>' :: rest => ([.gap], rest)
  | '/' :: c :: rest =>
    if isAsciiLetter c then
      match readTag? (c :: rest) with
      | some (tag, rest) => ([.endTag tag.name], rest)
      | none => ([], [])
    else readBogusComment (c :: rest)
  | '?' :: rest => readBogusComment ('?' :: rest)
  | c :: rest =>
    if isAsciiLetter c then
      match readTag? (c :: rest) with
      | some (tag, rest) => ([.startTag tag], rest)
      | none => ([], [])
    else ([.char '<'], c :: rest)
  | [] => ([.char '<'], [])

/-- What follows `&` in a text. -/
def readTextReference (s : List Char) : List Token × List Char :=
  match readReference? false s with
  | some reference =>
    let chars := reference.chars.map .char
    (if reference.closed then chars else .gap :: chars, reference.rest)
  | none => ([.char '&'], s)

/-! ## Text without tags -/

/-- The tag that closes an element with text only, after its `<`. Nothing if the text goes on;
a tag that does not end takes the rest of the text with it. -/
def readClosingTag? (name : String) (s : List Char) : Option (List Token × List Char) :=
  match s with
  | '/' :: rest =>
    let after := rest.drop name.toList.length
    if startsWithWord name rest && after.head?.any endsTagName then
      match readAttributes? [] after with
      | some (_, _, rest) => some ([.endTag name], rest)
      | none => some ([], [])
    else none
  | _ => none

/-- A word of letters after `<` or `</` in a script: its characters with the one that ends it,
whether it is the word `script`, and what is left. Nothing if the word does not end. -/
def readScriptWord? (s : List Char) : Option (List Char × Bool × List Char) :=
  let word := s.takeWhile isAsciiLetter
  match s.dropWhile isAsciiLetter with
  | c :: rest =>
    if endsTagName c then some (word ++ [c], word.map asciiLowerChar == "script".toList, rest)
    else none
  | [] => none

/-- The state after a character of a script that begins nothing. -/
def ScriptState.advance (state : ScriptState) (c : Char) : ScriptState :=
  match state with
  | plain => plain
  | escaped dashes =>
    if c = '-' then escaped (min 2 (dashes + 1))
    else if c = '>' && dashes == 2 then plain
    else escaped 0
  | doubleEscaped dashes =>
    if c = '-' then doubleEscaped (min 2 (dashes + 1))
    else if c = '>' && dashes == 2 then plain
    else doubleEscaped 0

/-- The next piece of a script that begins with `<`: its characters, the state after it, and
what is left. -/
def readScriptMarkup (state : ScriptState) (s : List Char) :
    List Char × ScriptState × List Char :=
  match state, s with
  | .plain, '!' :: '-' :: '-' :: rest => ("<!--".toList, .escaped 2, rest)
  | .plain, s => (['<'], .plain, s)
  | .escaped _, c :: rest =>
    if isAsciiLetter c then
      match readScriptWord? (c :: rest) with
      | some (chars, true, rest) => ('<' :: chars, .doubleEscaped 0, rest)
      | some (chars, false, rest) => ('<' :: chars, .escaped 0, rest)
      | none => (['<'], .escaped 0, c :: rest)
    else (['<'], .escaped 0, c :: rest)
  | .escaped _, [] => (['<'], .escaped 0, [])
  | .doubleEscaped _, '/' :: rest =>
    match readScriptWord? rest with
    | some (chars, true, rest) => ('<' :: '/' :: chars, .escaped 0, rest)
    | some (chars, false, rest) => ('<' :: '/' :: chars, .doubleEscaped 0, rest)
    | none => (['<', '/'], .doubleEscaped 0, rest)
  | .doubleEscaped _, s => (['<'], .doubleEscaped 0, s)

/-- A script can end here. -/
def ScriptState.canEnd : ScriptState → Bool
  | doubleEscaped _ => false
  | _ => true

/-! ## The next tokens -/

/-- Take tokens from a text that begins with `c`: the tokens, how the text is read after them,
and what is left. What follows a script is a text of its own, which may have a byte order mark
at its beginning. -/
def nextTokens (model : ContentModel) (cdataAllowed : Bool) (c : Char) (rest : List Char) :
    List Token × ContentModel × List Char :=
  match model with
  | .data =>
    let (tokens, rest) :=
      if c = '<' then readMarkup cdataAllowed rest
      else if c = '&' then readTextReference rest
      else ([.char c], rest)
    (tokens, .data, rest)
  | .rcdata name =>
    match if c = '<' then readClosingTag? name rest else none with
    | some (tokens, rest) => (tokens, .data, rest)
    | none =>
      let (tokens, rest) :=
        if c = '&' then readTextReference rest else ([.char (replaceNul c)], rest)
      (tokens, .rcdata name, rest)
  | .rawText name =>
    match if c = '<' then readClosingTag? name rest else none with
    | some (tokens, rest) => (tokens, .data, rest)
    | none => ([.char (replaceNul c)], .rawText name, rest)
  | .script state =>
    match if c = '<' && state.canEnd then readClosingTag? "script" rest else none with
    | some (tokens, rest) => (tokens, .data, dropByteOrderMark rest)
    | none =>
      if c = '<' then
        let (chars, state, rest) := readScriptMarkup state rest
        (chars.map .char, .script state, rest)
      else ([.char (replaceNul c)], .script (state.advance c), rest)
  | .plaintext => ([.char (replaceNul c)], .plaintext, rest)

end Tagdown.Html
