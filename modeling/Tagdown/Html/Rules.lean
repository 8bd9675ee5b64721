import Tagdown.Html.Formatting

/-!
# The rules for each token

What a token does to the document under construction depends on the mode that the builder is
in. Each mode has a function for it. A rule that changes the mode may ask for the token to be
looked at again (`Outcome.again`), and a rule of one mode may call on those of another.

Inside an image or a formula the rules are others (`inForeign`), up to an element that can
only be meant as HTML.
-/

namespace Tagdown.Html

open Text (asciiLower)

/-- What a rule comes to. -/
inductive Outcome where
  /-- The token is dealt with. -/
  | done (b : Builder)
  /-- The same token is to be looked at again in the new state. -/
  | again (b : Builder)

namespace Builder

/-! ## Modes -/

/-- The mode inside a selection with these elements around it, innermost first. -/
def selectMode : List OpenElement → Mode
  | [] => .inSelect
  | e :: outer =>
    if e.name.isHtmlIn ["template"] then .inSelect
    else if e.name.isHtmlIn ["table"] then .inSelectInTable
    else selectMode outer

/-- The mode inside an element of HTML, where it decides. -/
def modeInside? (templateModes : List Mode) (outer : List OpenElement) (tag : String) :
    Option Mode :=
  if tag = "select" then some (selectMode outer)
  else if tag = "td" || tag = "th" then some .inCell
  else if tag = "tr" then some .inRow
  else if tableSectionTags.contains tag then some .inTableBody
  else if tag = "caption" then some .inCaption
  else if tag = "colgroup" then some .inColumnGroup
  else if tag = "table" then some .inTable
  else if tag = "template" then templateModes.head?
  else if tag = "body" then some .inBody
  else none

/-- The mode with these elements open, innermost first. -/
def modeOf (templateModes : List Mode) : List OpenElement → Mode
  | [] => .inBody
  | e :: outer =>
    match if e.name.language = .html then modeInside? templateModes outer e.name.tag else none with
    | some mode => mode
    | none => modeOf templateModes outer

/-- The mode that fits the elements that are open. -/
def resetMode (b : Builder) : Builder :=
  { b with mode := modeOf b.templateModes b.openElements }

/-- The same state in another mode. -/
def withMode (b : Builder) (mode : Mode) : Builder :=
  { b with mode }

/-- The same state in another mode of the innermost template. -/
def withTemplateMode (b : Builder) (mode : Mode) : Builder :=
  { b with templateModes := mode :: b.templateModes.drop 1, mode }

/-! ## Elements of the head -/

/-- A tag that opens an element of the head. -/
def startInHead (b : Builder) (tag : StartTag) : Builder :=
  if tag.name = "title" then b.insertRaw tag (.rcdata tag.name)
  else if tag.name = "noframes" || tag.name = "style" then b.insertRaw tag (.rawText tag.name)
  else if tag.name = "script" then b.insertRaw tag (.script .plain)
  else if tag.name = "template" then
    let b := (b.insert tag).pushMarker
    { b with mode := .inTemplate, templateModes := .inTemplate :: b.templateModes }
  else b.insertVoid tag

/-- The tag that closes a template. -/
def endTemplate (b : Builder) : Builder :=
  if b.inTemplate then
    let b := ((b.closeImplied thoroughImpliedEndTags).popThrough ["template"]).clearToMarker
    resetMode { b with templateModes := b.templateModes.drop 1 }
  else b

/-! ## Text and what goes with it -/

/-- The tag says that a field is not to be shown. -/
def isHiddenInput (tag : StartTag) : Bool :=
  tag.attributes.any fun a => a.name == "type" && asciiLower a.value == "hidden"

/-- From the inside out, the item that ends when one of `tags` begins. Nothing is ended from
inside an element with a place in the structure of the document, with few exceptions. -/
def itemToClose? (tags : List String) : List OpenElement → Option String
  | [] => none
  | e :: outer =>
    if e.name.isHtmlIn tags then some e.name.tag
    else if e.name.isHtmlIn specialTags && !e.name.isHtmlIn ["address", "div", "p"] then none
    else itemToClose? tags outer

/-- A tag that opens an item of a list. -/
def startItem (b : Builder) (tag : StartTag) : Builder :=
  let tags := if tag.name = "li" then ["li"] else ["dd", "dt"]
  let b := match itemToClose? tags b.openElements with
    | some item => (b.closeImpliedExcept item).popThrough [item]
    | none => b
  b.closeParagraphInScope.insert tag

/-- A tag that opens a form. Forms do not stand inside each other. -/
def startForm (b : Builder) (tag : StartTag) : Builder :=
  if b.form.isSome && !b.inTemplate then b
  else
    let (b, id) := b.closeParagraphInScope.enter (.html tag.name) tag.attributes
    if b.inTemplate then b else { b with form := some id }

/-- A tag that opens a link. Links do not stand inside each other. -/
def startLink (b : Builder) (tag : StartTag) : Builder :=
  let b := match (reachable b.formatting).find? (·.2.name == "a") with
    | some (id, _) => ((b.adopt "a").removeFormatting id).removeOpen id
    | none => b
  b.reopenFormatting.insertFormatting tag

/-- A tag that opens an image or a formula. -/
def startForeign (b : Builder) (language : Language) (tag : StartTag) : Builder :=
  let name : ElementName := ⟨language, tag.name⟩
  let attributes := adjustAttributes language tag.attributes
  if tag.selfClosing then (b.place name attributes).1 else (b.enter name attributes).1

/-- A tag that opens an element, where text is expected. -/
def startInBody (b : Builder) (tag : StartTag) : Builder :=
  let tag := if tag.name = "image" then { tag with name := "img" } else tag
  let name := tag.name
  if headTags.contains name then b.startInHead tag
  else if strayTags.contains name then b
  else if blockStartTags.contains name then b.closeParagraphInScope.insert tag
  else if headingTags.contains name then
    let b := b.closeParagraphInScope
    (if b.currentIsIn headingTags then b.pop else b).insert tag
  else if name = "pre" || name = "listing" then
    { b.closeParagraphInScope.insert tag with skipLineFeed := true }
  else if name = "form" then b.startForm tag
  else if name = "li" || name = "dd" || name = "dt" then b.startItem tag
  else if name = "plaintext" then
    { b.closeParagraphInScope.insert tag with contentModel := some .plaintext }
  else if name = "button" then
    let b := if b.inScope ElementName.boundsScope ["button"] then
        (b.closeImplied impliedEndTags).popThrough ["button"]
      else b
    b.reopenFormatting.insert tag
  else if name = "a" then b.startLink tag
  else if formattingTags.contains name then b.reopenFormatting.insertFormatting tag
  else if name = "nobr" then
    let b := b.reopenFormatting
    let b := if b.inScope ElementName.boundsScope ["nobr"] then
        (b.adopt "nobr").reopenFormatting
      else b
    b.insertFormatting tag
  else if objectTags.contains name then (b.reopenFormatting.insert tag).pushMarker
  else if name = "table" then (b.closeParagraphInScope.insert tag).withMode .inTable
  else if voidInlineTags.contains name then b.reopenFormatting.insertVoid tag
  else if voidMetaTags.contains name then b.insertVoid tag
  else if name = "hr" then b.closeParagraphInScope.insertVoid tag
  else if name = "textarea" then
    { b.insertRaw tag (.rcdata name) with skipLineFeed := true }
  else if name = "xmp" then
    b.closeParagraphInScope.reopenFormatting.insertRaw tag (.rawText name)
  else if name = "iframe" || name = "noembed" || name = "noscript" then
    b.insertRaw tag (.rawText name)
  else if name = "select" then
    let inTable := [.inTable, .inCaption, .inTableBody, .inRow, .inCell].contains b.mode
    (b.reopenFormatting.insert tag).withMode (if inTable then .inSelectInTable else .inSelect)
  else if name = "optgroup" || name = "option" then
    (if b.currentIs "option" then b.pop else b).reopenFormatting.insert tag
  else if name = "rb" || name = "rtc" then
    (if b.inScope ElementName.boundsScope ["ruby"] then b.closeImplied impliedEndTags
      else b).insert tag
  else if name = "rp" || name = "rt" then
    (if b.inScope ElementName.boundsScope ["ruby"] then b.closeImpliedExcept "rtc"
      else b).insert tag
  else if name = "math" then b.startForeign .mathml tag
  else if name = "svg" then b.startForeign .svg tag
  else b.reopenFormatting.insert tag

/-- The tag that closes a form. -/
def endForm (b : Builder) : Builder :=
  if b.inTemplate then
    if b.inScope ElementName.boundsScope ["form"] then
      (b.closeImplied impliedEndTags).popThrough ["form"]
    else b
  else
    match b.form with
    | none => b
    | some id =>
      let b := { b with form := none }
      if b.isInScope id then (b.closeImplied impliedEndTags).removeOpen id else b

/-- A tag that closes an element, where text is expected. -/
def endInBody (b : Builder) (name : String) : Builder :=
  if name = "template" then b.endTemplate
  else if name = "body" || name = "html" then b
  else if blockEndTags.contains name then
    if b.inScope ElementName.boundsScope [name] then
      (b.closeImplied impliedEndTags).popThrough [name]
    else b
  else if name = "form" then b.endForm
  else if name = "p" then
    (if b.inScope ElementName.boundsButtonScope ["p"] then b
      else b.insertImplied "p").closeParagraph
  else if name = "li" then
    if b.inScope ElementName.boundsListItemScope ["li"] then
      (b.closeImpliedExcept "li").popThrough ["li"]
    else b
  else if name = "dd" || name = "dt" then
    if b.inScope ElementName.boundsScope [name] then
      (b.closeImpliedExcept name).popThrough [name]
    else b
  else if headingTags.contains name then
    if b.inScope ElementName.boundsScope headingTags then
      (b.closeImplied impliedEndTags).popThrough headingTags
    else b
  else if formattingTags.contains name || name = "a" || name = "nobr" then b.adopt name
  else if objectTags.contains name then
    if b.inScope ElementName.boundsScope [name] then
      ((b.closeImplied impliedEndTags).popThrough [name]).clearToMarker
    else b
  else if name = "br" then b.startInBody { name := "br" }
  else b.closeAny name

/-- A character, where text is expected. -/
def charInBody (b : Builder) (c : Char) : Builder :=
  if c = '\x00' then b else b.reopenFormatting.insertChar c

/-- A token, where text is expected. -/
def inBody (b : Builder) (token : Token) : Builder :=
  match token with
  | .startTag tag => b.startInBody tag
  | .endTag name => b.endInBody name
  | .comment value => b.insertComment value
  | .char c => b.charInBody c
  | .gap => b

/-- A token inside an element with text only. -/
def inText (b : Builder) (token : Token) : Builder :=
  match token with
  | .char c => b.insertChar c
  | .endTag _ => b.pop.withMode b.returnMode
  | _ => b

/-! ## Tables -/

/-- What has no place in a table goes before it. -/
def fosterInBody (b : Builder) (token : Token) : Builder :=
  { inBody { b with fosterParenting := true } token with fosterParenting := false }

/-- Give the text that was found in a table its place: before the table, unless it is nothing
but white space. -/
def flushTableText (b : Builder) : Builder :=
  let chars := b.pendingText.reverse
  let b := { b with pendingText := [] }
  if chars.all isSpace then chars.foldl insertChar b
  else chars.foldl (fun b c => b.fosterInBody (.char c)) b

/-- A token after a text in a table. -/
def inTableText (b : Builder) (token : Token) : Outcome :=
  match token with
  | .char c => .done (if c = '\x00' then b else { b with pendingText := c :: b.pendingText })
  | _ => .again (b.flushTableText.withMode b.returnMode)

/-- Close what is open in a table. -/
def clearToTable (b : Builder) : Builder :=
  b.popUntilCurrentIn ["html", "table", "template"]

/-- A tag that opens an element, in a table. -/
def startInTable (b : Builder) (tag : StartTag) : Outcome :=
  let name := tag.name
  if name = "caption" then
    .done ((b.clearToTable.pushMarker.insert tag).withMode .inCaption)
  else if name = "colgroup" then .done ((b.clearToTable.insert tag).withMode .inColumnGroup)
  else if name = "col" then
    .again ((b.clearToTable.insertImplied "colgroup").withMode .inColumnGroup)
  else if tableSectionTags.contains name then
    .done ((b.clearToTable.insert tag).withMode .inTableBody)
  else if name = "td" || name = "th" || name = "tr" then
    .again ((b.clearToTable.insertImplied "tbody").withMode .inTableBody)
  else if name = "table" then
    if b.inScope ElementName.boundsTableScope ["table"] then
      .again (b.popThrough ["table"]).resetMode
    else .done b
  else if name = "style" || name = "script" || name = "template" then .done (b.startInHead tag)
  else if name = "input" && isHiddenInput tag then .done (b.insertVoid tag)
  else if name = "form" then
    if b.inTemplate || b.form.isSome then .done b
    else
      let (b, id) := b.place (.html name) tag.attributes
      .done { b with form := some id }
  else .done (b.fosterInBody (.startTag tag))

/-- A tag that closes an element, in a table. -/
def endInTable (b : Builder) (name : String) : Outcome :=
  if name = "table" then
    .done (if b.inScope ElementName.boundsTableScope ["table"] then
      (b.popThrough ["table"]).resetMode else b)
  else if name = "body" || name = "html" || tablePartTags.contains name then .done b
  else if name = "template" then .done b.endTemplate
  else .done (b.fosterInBody (.endTag name))

/-- A token in a table. -/
def inTable (b : Builder) (token : Token) : Outcome :=
  match token with
  | .startTag tag => b.startInTable tag
  | .endTag name => b.endInTable name
  | .comment value => .done (b.insertComment value)
  | .char c =>
    if b.currentIsIn tableStructureTags then
      .again { b with returnMode := b.mode, mode := .inTableText }
    else .done (b.fosterInBody (.char c))
  | .gap => .done b

/-- Close a caption if one is open; then look at the token again, unless it was the tag for
that. -/
def closeCaption (b : Builder) (finished : Bool) : Outcome :=
  if b.inScope ElementName.boundsTableScope ["caption"] then
    let b := ((b.closeImplied impliedEndTags).popThrough ["caption"]).clearToMarker
    if finished then .done (b.withMode .inTable) else .again (b.withMode .inTable)
  else .done b

/-- A token in a caption. -/
def inCaption (b : Builder) (token : Token) : Outcome :=
  match token with
  | .startTag tag =>
    if tablePartTags.contains tag.name then b.closeCaption false else .done (b.inBody token)
  | .endTag name =>
    if name = "caption" then b.closeCaption true
    else if name = "table" then b.closeCaption false
    else if name = "body" || name = "html" || tablePartTags.contains name then .done b
    else .done (b.inBody token)
  | _ => .done (b.inBody token)

/-- A token in a group of columns. -/
def inColumnGroup (b : Builder) (token : Token) : Outcome :=
  let leave : Outcome :=
    if b.currentIs "colgroup" then .again (b.pop.withMode .inTable) else .done b
  match token with
  | .startTag tag =>
    if tag.name = "html" then .done b
    else if tag.name = "col" then .done (b.insertVoid tag)
    else if tag.name = "template" then .done (b.startInHead tag)
    else leave
  | .endTag name =>
    if name = "colgroup" then
      .done (if b.currentIs "colgroup" then b.pop.withMode .inTable else b)
    else if name = "col" then .done b
    else if name = "template" then .done b.endTemplate
    else leave
  | .comment value => .done (b.insertComment value)
  | .char c => if isSpace c then .done (b.insertChar c) else leave
  | .gap => .done b

/-- Close what is open in a part of a table that holds rows. -/
def clearToTableBody (b : Builder) : Builder :=
  b.popUntilCurrentIn ["tbody", "tfoot", "thead", "template", "html"]

/-- Leave the part of a table that holds rows, and look at the token again. -/
def leaveTableBody (b : Builder) : Outcome :=
  if b.inScope ElementName.boundsTableScope ["table", "tbody", "tfoot"] then
    .again (b.clearToTableBody.pop.withMode .inTable)
  else .done b

/-- A token in a part of a table that holds rows. -/
def inTableBody (b : Builder) (token : Token) : Outcome :=
  match token with
  | .startTag tag =>
    if tag.name = "tr" then .done ((b.clearToTableBody.insert tag).withMode .inRow)
    else if tag.name = "th" || tag.name = "td" then
      .again ((b.clearToTableBody.insertImplied "tr").withMode .inRow)
    else if tablePartTags.contains tag.name then b.leaveTableBody
    else b.inTable token
  | .endTag name =>
    if tableSectionTags.contains name then
      .done (if b.inScope ElementName.boundsTableScope [name] then
        b.clearToTableBody.pop.withMode .inTable else b)
    else if name = "table" then b.leaveTableBody
    else if name = "body" || name = "html" || tablePartTags.contains name then .done b
    else b.inTable token
  | _ => b.inTable token

/-- Close what is open in a row. -/
def clearToRow (b : Builder) : Builder :=
  b.popUntilCurrentIn ["tr", "template", "html"]

/-- Leave a row if one is open, and look at the token again. -/
def leaveRow (b : Builder) : Outcome :=
  if b.inScope ElementName.boundsTableScope ["tr"] then
    .again (b.clearToRow.pop.withMode .inTableBody)
  else .done b

/-- A token in a row. -/
def inRow (b : Builder) (token : Token) : Outcome :=
  match token with
  | .startTag tag =>
    if tag.name = "th" || tag.name = "td" then
      .done ((b.clearToRow.insert tag).withMode .inCell).pushMarker
    else if tablePartTags.contains tag.name then b.leaveRow
    else b.inTable token
  | .endTag name =>
    if name = "tr" then
      .done (if b.inScope ElementName.boundsTableScope ["tr"] then
        b.clearToRow.pop.withMode .inTableBody else b)
    else if name = "table" then b.leaveRow
    else if tableSectionTags.contains name then
      if b.inScope ElementName.boundsTableScope [name] then b.leaveRow else .done b
    else if name = "body" || name = "html" || tablePartTags.contains name then .done b
    else b.inTable token
  | _ => b.inTable token

/-- Close the cell that is open. -/
def closeCell (b : Builder) : Builder :=
  ((b.closeImplied impliedEndTags).popThrough ["td", "th"]).clearToMarker

/-- A token in a cell. -/
def inCell (b : Builder) (token : Token) : Outcome :=
  match token with
  | .startTag tag =>
    if tablePartTags.contains tag.name then
      if b.inScope ElementName.boundsTableScope ["td", "th"] then
        .again (b.closeCell.withMode .inRow)
      else .done b
    else .done (b.inBody token)
  | .endTag name =>
    if name = "td" || name = "th" then
      .done (if b.inScope ElementName.boundsTableScope [name] then
        (((b.closeImplied impliedEndTags).popThrough [name]).clearToMarker).withMode .inRow
        else b)
    else if tableStructureTags.contains name then
      if b.inScope ElementName.boundsTableScope [name] then .again (b.closeCell.withMode .inRow)
      else .done b
    else if name = "body" || name = "html" || tablePartTags.contains name then .done b
    else .done (b.inBody token)
  | _ => .done (b.inBody token)

/-! ## Selections -/

/-- A tag that opens an element, in a selection. -/
def startInSelect (b : Builder) (tag : StartTag) : Outcome :=
  let name := tag.name
  let selectOpen := b.inScope ElementName.boundsSelectScope ["select"]
  if name = "option" then .done ((if b.currentIs "option" then b.pop else b).insert tag)
  else if name = "optgroup" then
    let b := if b.currentIs "option" then b.pop else b
    .done ((if b.currentIs "optgroup" then b.pop else b).insert tag)
  else if name = "hr" then
    let b := if b.currentIs "option" then b.pop else b
    .done ((if b.currentIs "optgroup" then b.pop else b).insertVoid tag)
  else if name = "select" then
    .done (if selectOpen then (b.popThrough ["select"]).resetMode else b)
  else if name = "input" || name = "keygen" || name = "textarea" then
    if selectOpen then .again (b.popThrough ["select"]).resetMode else .done b
  else if name = "script" || name = "template" then .done (b.startInHead tag)
  else .done b

/-- A tag that closes an element, in a selection. -/
def endInSelect (b : Builder) (name : String) : Builder :=
  if name = "optgroup" then
    let choiceInGroup := b.currentIs "option" && b.pop.currentIs "optgroup"
    let b := if choiceInGroup then b.pop else b
    if b.currentIs "optgroup" then b.pop else b
  else if name = "option" then if b.currentIs "option" then b.pop else b
  else if name = "select" then
    if b.inScope ElementName.boundsSelectScope ["select"] then (b.popThrough ["select"]).resetMode
    else b
  else if name = "template" then b.endTemplate
  else b

/-- A token in a selection. -/
def inSelect (b : Builder) (token : Token) : Outcome :=
  match token with
  | .startTag tag => b.startInSelect tag
  | .endTag name => .done (b.endInSelect name)
  | .comment value => .done (b.insertComment value)
  | .char c => .done (if c = '\x00' then b else b.insertChar c)
  | .gap => .done b

/-- The tags that end a selection in a table. -/
def selectEndingTags : List String :=
  ["caption", "table", "tbody", "tfoot", "thead", "tr", "td", "th"]

/-- A token in a selection in a table. -/
def inSelectInTable (b : Builder) (token : Token) : Outcome :=
  match token with
  | .startTag tag =>
    if selectEndingTags.contains tag.name then .again (b.popThrough ["select"]).resetMode
    else b.inSelect token
  | .endTag name =>
    if selectEndingTags.contains name then
      if b.inScope ElementName.boundsTableScope [name] then
        .again (b.popThrough ["select"]).resetMode
      else .done b
    else b.inSelect token
  | _ => b.inSelect token

/-! ## Templates -/

/-- A token in a template. The first tag decides what the template is a part of. -/
def inTemplateMode (b : Builder) (token : Token) : Outcome :=
  match token with
  | .startTag tag =>
    if headTags.contains tag.name then .done (b.startInHead tag)
    else if tag.name = "caption" || tag.name = "colgroup" || tableSectionTags.contains tag.name
    then .again (b.withTemplateMode .inTable)
    else if tag.name = "col" then .again (b.withTemplateMode .inColumnGroup)
    else if tag.name = "tr" then .again (b.withTemplateMode .inTableBody)
    else if tag.name = "td" || tag.name = "th" then .again (b.withTemplateMode .inRow)
    else .again (b.withTemplateMode .inBody)
  | .endTag name => .done (if name = "template" then b.endTemplate else b)
  | .char _ => .done (b.inBody token)
  | .comment _ => .done (b.inBody token)
  | .gap => .done b

/-! ## All modes -/

/-- A token, by the rules of the mode. -/
def step (b : Builder) (token : Token) : Outcome :=
  match b.mode with
  | .inBody => .done (b.inBody token)
  | .text => .done (b.inText token)
  | .inTable => b.inTable token
  | .inTableText => b.inTableText token
  | .inCaption => b.inCaption token
  | .inColumnGroup => b.inColumnGroup token
  | .inTableBody => b.inTableBody token
  | .inRow => b.inRow token
  | .inCell => b.inCell token
  | .inSelect => b.inSelect token
  | .inSelectInTable => b.inSelectInTable token
  | .inTemplate => b.inTemplateMode token

/-! ## Images and formulas -/

/-- The token is one of an image or a formula: it stands directly in an element of another
language than HTML, and that element does not take it for HTML. -/
def isForeign (b : Builder) (token : Token) : Bool :=
  let name := b.current.name
  if name.language = .html then false
  else
    match token with
    | .char _ => !name.isTextIntegrationPoint && !name.isHtmlIntegrationPoint
    | .startTag tag =>
      !(name.isTextIntegrationPoint && tag.name != "mglyph" && tag.name != "malignmark")
        && !name.isHtmlIntegrationPoint
        && !(name = ⟨.mathml, "annotation-xml"⟩ && tag.name == "svg")
    | _ => true

/-- The element can hold HTML. -/
def holdsHtml (e : OpenElement) : Bool :=
  e.name.language == .html || e.name.isTextIntegrationPoint || e.name.isHtmlIntegrationPoint

/-- The open elements around the innermost one that a closing tag is for; nothing if an
element of HTML comes first, or there is none. -/
def closeForeign? (tag : String) : List OpenElement → Option (List OpenElement)
  | [] => none
  | e :: outer =>
    if e.name.language = .html then none
    else if e.name.tag = tag then some outer
    else closeForeign? tag outer

/-- Close elements up to one that can hold HTML, and deal with a token that is meant for that
one. -/
def breakOut (b : Builder) (token : Token) : Outcome :=
  step { b with openElements := b.openElements.dropWhile (!holdsHtml ·) } token

/-- A token in an image or a formula. -/
def inForeign (b : Builder) (token : Token) : Outcome :=
  match token with
  | .char c => .done (b.insertChar (replaceNul c))
  | .comment value => .done (b.insertComment value)
  | .gap => .done b
  | .startTag tag =>
    let styled := tag.attributes.any fun a => ["color", "face", "size"].contains a.name
    if breakoutTags.contains tag.name || (tag.name = "font" && styled) then b.breakOut token
    else .done (b.startForeign b.current.name.language tag)
  | .endTag name =>
    if name = "br" || name = "p" then b.breakOut token
    else
      match closeForeign? name b.openElements with
      | some outer => .done { b with openElements := outer }
      | none =>
        if b.openElements.all (·.name.language != .html) then .done b else b.step token

/-! ## One token -/

/-- Look at a token once. -/
def look (b : Builder) (token : Token) : Outcome :=
  if b.isForeign token then b.inForeign token else b.step token

/-- Deal with a token, looking at it up to `fuel` times. -/
def settle : Nat → Builder → Token → Builder
  | 0, b, _ => b
  | fuel + 1, b, token =>
    match b.look token with
    | .done b => b
    | .again b => settle fuel b token

/-- Deal with a token. Each time that it is looked at again an element was closed, or the mode
leads inwards by one of a few steps. A line feed right after some tags is left out. -/
def feed (b : Builder) (token : Token) : Builder :=
  let skip := match token with
    | .gap => true
    | .char c => b.skipLineFeed && c == '\n'
    | _ => false
  let b := { b with skipLineFeed := false }
  if skip then b
  else
    match b.look token with
    | .done b => b
    | .again b => settle (8 * (b.openElements.length + 2)) b token

/-- The text is at its end. -/
def finish (b : Builder) : Builder :=
  if b.mode = .inTableText then b.flushTableText else b

end Builder

end Tagdown.Html
