import Tagdown.Proofs.Html.PlainText

/-!
# Reading a link

The value of an attribute is read as it stands between its quotes, if there are no references in it
(`attributeValue_eq_ofList`). From the tokens of a link, two tags with a character between them,
comes an element with a text in it (`Tree.parseHtml_linkMarkup`).
-/

namespace Tagdown

namespace Html

/-- A value that is read as it stands between double quotes, and that has no markup in it. -/
structure IsPlainValue (s : List Char) : Prop where
  quote : '"' ∉ s
  ampersand : '&' ∉ s
  openBracket : '<' ∉ s
  closeBracket : '>' ∉ s
  carriageReturn : '\r' ∉ s
  lineFeed : '\n' ∉ s
  nul : '\x00' ∉ s

instance (s : List Char) : Decidable (IsPlainValue s) :=
  decidable_of_iff
    ('"' ∉ s ∧ '&' ∉ s ∧ '<' ∉ s ∧ '>' ∉ s ∧ '\r' ∉ s ∧ '\n' ∉ s ∧ '\x00' ∉ s)
    ⟨fun ⟨h₁, h₂, h₃, h₄, h₅, h₆, h₇⟩ => ⟨h₁, h₂, h₃, h₄, h₅, h₆, h₇⟩,
      fun ⟨h₁, h₂, h₃, h₄, h₅, h₆, h₇⟩ => ⟨h₁, h₂, h₃, h₄, h₅, h₆, h₇⟩⟩

variable {s rest : List Char}

/-! ## The value of an attribute

A value in quotation marks is read to the next quotation mark. Without ampersands there are no
references in it, and so it is read as it is written. -/

/-- References begin with an ampersand, and a null is the one other character that is replaced. -/
theorem expandReferences_eq_self (hampersand : '&' ∉ s) (hnul : '\x00' ∉ s) :
    expandReferences s.length s = s := by
  induction s with
  | nil => rfl
  | cons c s ih =>
    obtain ⟨hc, hs⟩ := not_or.1 (mt List.mem_cons.2 hampersand)
    obtain ⟨hc', hs'⟩ := not_or.1 (mt List.mem_cons.2 hnul)
    rw [List.length_cons, expandReferences, if_neg (Ne.symm hc), replaceNul, if_neg (Ne.symm hc'),
      ih hs hs']

theorem attributeValue_eq_ofList (hampersand : '&' ∉ s) (hnul : '\x00' ∉ s) :
    attributeValue s = String.ofList s := by
  rw [attributeValue, expandReferences_eq_self hampersand hnul]

/-- The value ends at the quotation mark, and there is none inside of it. -/
theorem readQuotedValue?_append (h : IsPlainValue s) (rest : List Char) :
    readQuotedValue? '"' (s ++ '"' :: rest) = some (String.ofList s, rest) := by
  have inside : ∀ c ∈ s, (c != '"') = true := fun c hc =>
    bne_iff_ne.2 (ne_of_mem_of_not_mem hc h.quote)
  have before : (s ++ '"' :: rest).takeWhile (· != '"') = s := by
    rw [List.takeWhile_append_of_pos inside]
    simp
  have after : (s ++ '"' :: rest).dropWhile (· != '"') = '"' :: rest := by
    rw [List.dropWhile_append_of_pos inside]
    simp
  rw [readQuotedValue?, before, after, attributeValue_eq_ofList h.ampersand h.nul]

/-! ## The tags of a link

The tokenizer is followed through the two tags of a link, each of which it takes at once: name,
attributes and the bracket at the end. -/

/-- The tag ends here. -/
theorem readAttributes?_end (attributes : List Attribute) (rest : List Char) :
    readAttributes? attributes ('>' :: rest) = some (attributes, false, rest) := by
  rw [readAttributes?]
  rfl

/-- A name, an equals sign and a value. -/
theorem readAttributes?_of_value {attributes : List Attribute} {c : Char} {value : String}
    {more afterName : List Char} (hstart : s.dropWhile isSpace = c :: more)
    (hc : c ≠ '>' ∧ c ≠ '/')
    (hname : (more.dropWhile (!endsAttributeName ·)).dropWhile isSpace = '=' :: afterName)
    (hvalue : readValue? afterName = some (value, rest)) :
    readAttributes? attributes s =
      readAttributes? (addAttribute attributes
        (nameOf (c :: more.takeWhile (!endsAttributeName ·))) value) rest := by
  rw [readAttributes?]
  split
  -- it is none of the endings of a tag
  case h_1 hs => rw [hstart] at hs; cases hs
  case h_2 hs => rw [hstart] at hs; cases hs; exact absurd rfl hc.1
  case h_3 hs => rw [hstart] at hs; cases hs; exact absurd rfl hc.2
  case h_4 hs => rw [hstart] at hs; cases hs; exact absurd rfl hc.2
  -- an attribute, with an equals sign and a value after its name
  case h_5 hs =>
    rw [hstart] at hs
    cases hs
    simp only
    split
    · rename_i hs
      rw [hname] at hs
      cases hs
      split
      · rename_i hs
        rw [hvalue] at hs
        cases hs
        rfl
      · rename_i hs
        rw [hvalue] at hs
        cases hs
    · rename_i hne
      exact absurd hname (hne afterName)

/-- A name, one attribute with its value in quotation marks, and the end of the tag. -/
theorem readTag?_link (h : IsPlainValue s) (rest : List Char) :
    readTag? ("a href=\"".toList ++ s ++ '"' :: '>' :: rest) =
      some ({ name := "a", attributes := [⟨"href", String.ofList s⟩] }, rest) := by
  have attributes : readAttributes? [] (" href=\"".toList ++ s ++ '"' :: '>' :: rest) =
      some ([⟨"href", String.ofList s⟩], false, rest) := by
    have value : readValue? ('"' :: (s ++ '"' :: '>' :: rest)) =
        some (String.ofList s, '>' :: rest) := readQuotedValue?_append h ('>' :: rest)
    have hstart : (" href=\"".toList ++ s ++ '"' :: '>' :: rest).dropWhile isSpace =
        'h' :: 'r' :: 'e' :: 'f' :: '=' :: '"' :: (s ++ '"' :: '>' :: rest) := rfl
    rw [readAttributes?_of_value hstart (by decide) rfl value]
    exact readAttributes?_end _ rest
  show (readAttributes? [] (" href=\"".toList ++ s ++ '"' :: '>' :: rest)).map _ = _
  rw [attributes]
  rfl

/-- After the angle bracket a letter begins a start tag, -/
theorem readMarkup_of_startTag {c : Char} {tag : StartTag} (hletter : Text.isAsciiLetter c = true)
    (htag : readTag? (c :: s) = some (tag, rest)) (cdataAllowed : Bool) :
    readMarkup cdataAllowed (c :: s) = ([.startTag tag], rest) := by
  have hne {d : Char} (hd : Text.isAsciiLetter d = false) : c ≠ d := by
    rintro rfl
    rw [hletter] at hd
    cases hd
  rw [readMarkup, if_pos hletter, htag]
  · exact hne (by decide)
  · exact fun _ hslash _ => hne (by decide) hslash
  · exact fun _ _ hslash _ => hne (by decide) hslash
  · exact hne (by decide)

/-- and a slash before it makes it an end tag, which has no attributes. -/
theorem readMarkup_of_endTag {c : Char} {tag : StartTag} (hletter : Text.isAsciiLetter c = true)
    (htag : readTag? (c :: s) = some (tag, rest)) (cdataAllowed : Bool) :
    readMarkup cdataAllowed ('/' :: c :: s) = ([.endTag tag.name], rest) := by
  rw [readMarkup, if_pos hletter, htag]
  rintro rfl
  cases hletter

/-- The tokenizer stays in the state for data, since the content of a link is not raw. -/
theorem nextTokens_startLink (h : IsPlainValue s) (cdataAllowed : Bool) (rest : List Char) :
    nextTokens .data cdataAllowed '<' ("a href=\"".toList ++ s ++ '"' :: '>' :: rest) =
      ([.startTag { name := "a", attributes := [⟨"href", String.ofList s⟩] }], .data, rest) := by
  have markup : readMarkup cdataAllowed ("a href=\"".toList ++ s ++ '"' :: '>' :: rest) =
      ([.startTag { name := "a", attributes := [⟨"href", String.ofList s⟩] }], rest) :=
    readMarkup_of_startTag (by decide) (readTag?_link h rest) cdataAllowed
  rw [nextTokens, if_pos rfl, markup]

/-- The end of the link is the end of the input. -/
theorem nextTokens_endLink (cdataAllowed : Bool) :
    nextTokens .data cdataAllowed '<' "/a>".toList = ([.endTag "a"], .data, []) := by
  have tag : readTag? "a>".toList = some ({ name := "a" }, []) := by
    show (readAttributes? [] ['>']).map _ = _
    rw [readAttributes?_end]
    rfl
  have markup : readMarkup cdataAllowed "/a>".toList = ([.endTag "a"], []) :=
    readMarkup_of_endTag (by decide) tag cdataAllowed
  rw [nextTokens, if_pos rfl, markup]

/-! ## The tree of a link

The builder is followed from its start, token by token. Its states in between are written out,
since they are few and have no more than three nodes. -/

namespace Builder

/-- A link that is open, with nothing in it. -/
def openLink (attributes : List Attribute) : Builder :=
  { arena :=
      ⟨#[{ payload := .element rootElement.name []
           links := { firstChild := some ⟨1⟩, lastChild := some ⟨1⟩ } },
         { payload := .element (.html "a") attributes, links := { parent := some ⟨0⟩ } }]⟩
    openElements := [⟨.html "a", ⟨1⟩⟩]
    formatting := [.element ⟨1⟩ { name := "a", attributes }] }

/-- The nodes of a link with one character in it. -/
def linkArena (attributes : List Attribute) (c : Char) : Arena Item :=
  ⟨#[{ payload := .element rootElement.name []
       links := { firstChild := some ⟨1⟩, lastChild := some ⟨1⟩ } },
     { payload := .element (.html "a") attributes
       links := { parent := some ⟨0⟩, firstChild := some ⟨2⟩, lastChild := some ⟨2⟩ } },
     { payload := .text (String.singleton c), links := { parent := some ⟨1⟩ } }]⟩

/-- The link while it is still open. -/
def filledLink (attributes : List Attribute) (c : Char) : Builder :=
  { openLink attributes with arena := linkArena attributes c }

/-- With nothing open before it, the tag of a link opens a link and no more. -/
theorem feed_startLink (attributes : List Attribute) :
    start.feed (.startTag { name := "a", attributes }) = openLink attributes := by
  have look : start.feed (.startTag { name := "a", attributes }) =
      start.startInBody { name := "a", attributes } := rfl
  have link : start.startInBody { name := "a", attributes } =
      start.startLink { name := "a", attributes } := by
    simp [startInBody, headTags, strayTags, blockStartTags, headingTags]
  rw [look, link]
  rfl

/-- The first character of the content makes a text node below the link. -/
theorem feed_openLink {c : Char} (hc : c ≠ '\x00') (attributes : List Attribute) :
    (openLink attributes).feed (.char c) = filledLink attributes c := by
  have look : (openLink attributes).feed (.char c) = (openLink attributes).charInBody c := rfl
  rw [look, charInBody, if_neg hc]
  rfl

/-- The tag closes the link, since nothing else is open in it. -/
theorem feed_endLink (attributes : List Attribute) (c : Char) :
    (filledLink attributes c).feed (.endTag "a") = { arena := linkArena attributes c } := by
  have look : (filledLink attributes c).feed (.endTag "a") =
      (filledLink attributes c).endInBody "a" := rfl
  have adopt : (filledLink attributes c).endInBody "a" = (filledLink attributes c).adopt "a" := by
    simp [endInBody, blockEndTags, headingTags, formattingTags]
  rw [look, adopt]
  rfl

end Builder

open Builder (linkArena feed_startLink feed_openLink feed_endLink)

/-- The text `x` in a link, with its markup. -/
def linkMarkup (address : String) : String :=
  "<a href=\"" ++ address ++ "\">x</a>"

theorem toList_linkMarkup (address : String) : (linkMarkup address).toList =
    '<' :: ("a href=\"".toList ++ address.toList ++ '"' :: '>' :: "x</a>".toList) := by
  simp [linkMarkup]

/-- Four tokens and the end of the input, each with what it does to the builder. -/
theorem build_linkMarkup {address : String} (h : IsPlainValue address.toList) :
    build (linkMarkup address) = { arena := linkArena [⟨"href", address⟩] 'x' } := by
  have whole : preprocess (linkMarkup address) = (linkMarkup address).toList := by
    apply preprocess_eq_toList
    · simp [linkMarkup, h.carriageReturn]
    · rw [toList_linkMarkup, List.head?_cons]
      decide
  obtain ⟨fuel, hfuel⟩ : ∃ fuel, (linkMarkup address).toList.length + 1 = fuel + 4 :=
    ⟨(linkMarkup address).toList.length - 3, by simp [linkMarkup]⟩
  have text : ∀ cdataAllowed, nextTokens .data cdataAllowed 'x' "</a>".toList =
      ([.char 'x'], .data, "</a>".toList) := nextTokens_char (by decide) (by decide)
  rw [build, whole]
  simp only [hfuel]
  rw [toList_linkMarkup,
    buildFrom_of_nextTokens (nextTokens_startLink h _ _) (feed_startLink _) rfl]
  show buildFrom (fuel + 3) .data _ ('x' :: "</a>".toList) = _
  rw [buildFrom_of_nextTokens (text _) (feed_openLink (by decide) _) rfl]
  show buildFrom (fuel + 2) .data _ ('<' :: "/a>".toList) = _
  rw [buildFrom_of_nextTokens (nextTokens_endLink _) (feed_endLink _ _) rfl, buildFrom,
    String.ofList_toList]
  rfl

/-- A link is an element with a text in it. -/
theorem parse_linkMarkup {address : String} (h : IsPlainValue address.toList) :
    parse (linkMarkup address) =
      [.node (.element "a" [⟨"href", address⟩]) [.node (.text "x") []]] := by
  rw [parse, build_linkMarkup h]
  rfl

end Html

namespace Tree

/-- The document with a link in it that has this address, and the text `x`. -/
def link (address : String) : Tree :=
  ⟨#[{ payload := .emptyDocument
       links := { firstChild := some ⟨1⟩, lastChild := some ⟨1⟩ } },
     { payload := { label := .element "a" [⟨"href", address⟩] }
       links := { parent := some ⟨0⟩, firstChild := some ⟨2⟩, lastChild := some ⟨2⟩ } },
     { payload := { label := .text, value := "x" }, links := { parent := some ⟨1⟩ } }]⟩

/-- The document has three nodes, and their links can be checked one by one. -/
theorem wellFormed_link (address : String) : (link address).WellFormed := by
  have history : link address = empty.run
      [.createElement "a" [⟨"href", address⟩], .createText "x", .append ⟨1⟩ ⟨2⟩,
       .append root ⟨1⟩] := by
    cbv
  rw [history]
  refine wellFormed_empty.run _ (allAllowed_of_areAllowed ?_)
  cbv

/-- **The address of a link is read as it stands.** The tokens are found first, and then the tree
that is built from them. -/
theorem parseHtml_linkMarkup {address : String} (h : Html.IsPlainValue address.toList) :
    parseHtml (Html.linkMarkup address) = link address := by
  have lower : Text.asciiLower "a" = "a" := by decide
  rw [parseHtml, Html.parse_linkMarkup h, ofDom]
  simp only [copyDoms, copyDom, createElement, createText, Arena.push, lower]
  cbv

end Tree

end Tagdown
