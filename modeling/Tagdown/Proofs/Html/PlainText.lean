import Tagdown.Html.Dom
import Tagdown.Proofs.Document.History
import Tagdown.Proofs.Text.ListMarkers

/-!
# Reading text without markup

A text is cut into tokens one character at a time where nothing in it is markup. Each character goes
to the end of the one text that stands in the document (`Builder.feed_holding`), so that in the end
this text is the one that was read (`Tree.parseHtml_of_plain`).
-/

namespace Tagdown

namespace Html

/-- A text that is read as it stands. It has no markup and no references in it, no character that is
replaced or left out, and no byte order mark in front. -/
structure IsPlain (s : List Char) : Prop where
  bracket : '<' ∉ s
  ampersand : '&' ∉ s
  carriageReturn : '\r' ∉ s
  nul : '\x00' ∉ s
  byteOrderMark : s.head? ≠ some (Char.ofNat 0xFEFF)

instance (s : List Char) : Decidable (IsPlain s) :=
  decidable_of_iff
    ('<' ∉ s ∧ '&' ∉ s ∧ '\r' ∉ s ∧ '\x00' ∉ s ∧ s.head? ≠ some (Char.ofNat 0xFEFF))
    ⟨fun ⟨h₁, h₂, h₃, h₄, h₅⟩ => ⟨h₁, h₂, h₃, h₄, h₅⟩,
      fun ⟨h₁, h₂, h₃, h₄, h₅⟩ => ⟨h₁, h₂, h₃, h₄, h₅⟩⟩

variable {html : String} {s rest : List Char} {c : Char}

/-! ## Before the first token

Line ends are made one kind and a byte order mark is dropped before anything is read. A plain
text has neither. -/

/-- Without a carriage return there are no line ends to be made equal. -/
theorem normalizeLineEnds_eq_self (h : '\r' ∉ s) : normalizeLineEnds s = s := by
  induction s with
  | nil => rfl
  | cons c s ih =>
    obtain ⟨hc, hs⟩ := not_or.1 (mt List.mem_cons.2 h)
    rw [normalizeLineEnds, ih hs]
    · rintro _ rfl
      exact absurd rfl hc
    · rintro rfl
      exact absurd rfl hc

/-- The stream that is read has the characters of the text, unless one of two things is to be
taken out: carriage returns and a mark at the beginning. -/
theorem preprocess_eq_toList (hreturn : '\r' ∉ html.toList)
    (hmark : html.toList.head? ≠ some (Char.ofNat 0xFEFF)) : preprocess html = html.toList := by
  rw [preprocess, normalizeLineEnds_eq_self hreturn]
  cases hs : html.toList with
  | nil => rfl
  | cons c s =>
    rw [hs] at hmark
    rw [dropByteOrderMark, if_neg]
    rintro rfl
    exact hmark rfl

/-! ## Taking tokens

In a text without markup every token is one character, and the builder appends it to the text
that stands last in the document, or makes that text when it is the first. -/

/-- Outside of markup a character is a token by itself. -/
theorem nextTokens_char (hbracket : c ≠ '<') (hampersand : c ≠ '&') (cdataAllowed : Bool) :
    nextTokens .data cdataAllowed c rest = ([.char c], .data, rest) := by
  rw [nextTokens, if_neg hbracket, if_neg hampersand]

/-- One round, with a token that does not change how the text is read. -/
theorem buildFrom_of_nextTokens {b b' : Builder} {token : Token} {after : List Char}
    (next : nextTokens .data (b.current.name.language != .html) c rest = ([token], .data, after))
    (hfeed : b.feed token = b') (hmodel : b'.contentModel = none) (fuel : Nat) :
    buildFrom (fuel + 1) .data b (c :: rest) = buildFrom fuel .data b' after := by
  subst hfeed
  rw [buildFrom, next]
  simp only [List.foldl_cons, List.foldl_nil, hmodel]

/-! ## One text

All tokens together leave one text below the root, with the characters that were read. -/

namespace Builder

/-- Nothing but one text in the element around all others. -/
def holding (value : String) : Builder :=
  { arena :=
      ⟨#[{ payload := .element rootElement.name []
           links := { firstChild := some ⟨1⟩, lastChild := some ⟨1⟩ } },
         { payload := .text value, links := { parent := some ⟨0⟩ } }]⟩ }

/-- The first character opens the text that the document will have. -/
theorem feed_start (hc : c ≠ '\x00') : start.feed (.char c) = holding (String.singleton c) := by
  have look : start.feed (.char c) = start.charInBody c := rfl
  rw [look, charInBody, if_neg hc]
  rfl

/-- A character goes to the end of the text that is there. -/
theorem feed_holding (hc : c ≠ '\x00') (value : String) :
    (holding value).feed (.char c) = holding (value.push c) := by
  have look : (holding value).feed (.char c) = (holding value).charInBody c := rfl
  rw [look, charInBody, if_neg hc]
  rfl

end Builder

open Builder (holding start feed_start feed_holding)

/-- By induction on the characters: each is a token, and it is added to the text that is there. -/
theorem buildFrom_holding (h : ∀ c ∈ s, c ≠ '<' ∧ c ≠ '&' ∧ c ≠ '\x00') :
    ∀ {fuel : Nat} {value : String}, s.length < fuel →
      buildFrom fuel .data (holding value) s = holding (value ++ String.ofList s) := by
  induction s with
  | nil =>
    intro fuel value hfuel
    obtain ⟨fuel, rfl⟩ := Nat.exists_eq_succ_of_ne_zero (Nat.ne_zero_of_lt hfuel)
    rw [buildFrom, String.ofList_nil, String.append_empty]
    rfl
  | cons c s ih =>
    intro fuel value hfuel
    obtain ⟨hbracket, hampersand, hnul⟩ := h c List.mem_cons_self
    obtain ⟨fuel, rfl⟩ := Nat.exists_eq_succ_of_ne_zero (Nat.ne_zero_of_lt hfuel)
    rw [buildFrom_of_nextTokens (nextTokens_char hbracket hampersand _) (feed_holding hnul value)
      rfl,
      ih (fun d hd => h d (List.mem_cons_of_mem c hd)) (Nat.lt_of_succ_lt_succ hfuel)]
    refine congrArg holding (String.toList_inj.1 ?_)
    simp

/-- The first character and all others, one after the other. -/
theorem build_of_plain (h : IsPlain html.toList) (hne : html ≠ "") : build html = holding html := by
  have plain : ∀ c ∈ html.toList, c ≠ '<' ∧ c ≠ '&' ∧ c ≠ '\x00' := fun c hc =>
    ⟨ne_of_mem_of_not_mem hc h.bracket, ne_of_mem_of_not_mem hc h.ampersand,
      ne_of_mem_of_not_mem hc h.nul⟩
  have whole := preprocess_eq_toList h.carriageReturn h.byteOrderMark
  cases hs : html.toList with
  | nil => exact absurd (String.toList_eq_nil_iff.1 hs) hne
  | cons c s =>
    rw [hs] at plain
    obtain ⟨hbracket, hampersand, hnul⟩ := plain c List.mem_cons_self
    rw [build, whole, hs, buildFrom_of_nextTokens (nextTokens_char hbracket hampersand _)
      (feed_start hnul) rfl, List.length_cons, buildFrom_holding
      (fun d hd => plain d (List.mem_cons_of_mem c hd)) (Nat.lt_succ_self _)]
    refine congrArg holding (String.toList_inj.1 ?_)
    simp [hs]

/-- In the end there is one text, and no element around it. -/
theorem parse_of_plain (h : IsPlain html.toList) (hne : html ≠ "") :
    parse html = [.node (.text html) []] := by
  rw [parse, build_of_plain h hne]
  rfl

end Html

namespace Tree

/-- The document with one text in it, or with nothing if the text is empty. -/
def ofText (value : String) : Tree :=
  if value = "" then empty else empty.run [.createText value, .append root ⟨1⟩]

theorem wellFormed_ofText (value : String) : (ofText value).WellFormed := by
  rw [ofText]
  split
  · exact wellFormed_empty
  · exact wellFormed_empty.run _ (allAllowed_of_areAllowed rfl)

/-- **A text without markup is the whole document.** An empty text makes a document without any node
below its root. -/
theorem parseHtml_of_plain {html : String} (h : Html.IsPlain html.toList) :
    parseHtml html = ofText html := by
  rw [ofText]
  split
  · rename_i hempty
    rw [hempty]
    rfl
  · rename_i hne
    rw [parseHtml, Html.parse_of_plain h hne]
    rfl

end Tree

end Tagdown
