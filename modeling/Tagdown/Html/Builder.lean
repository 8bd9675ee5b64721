import Tagdown.Html.Vocabulary

/-!
# A document under construction

A `Builder` holds the tree that is being built from tokens, the elements that are open in it,
and what else the rules for the next token depend on. The operations here open and close
elements and find the place for what comes next.

The open elements are kept innermost first, without the element around all of them. That one
is never closed: it is the `rootElement`, and stands for the body in which the text is read.
-/

namespace Tagdown.Html

/-- What a node of the tree is. A fragment holds what is inside a template. -/
inductive Item where
  | element (name : ElementName) (attributes : List Attribute)
  | text (value : String)
  | comment (value : String)
  | fragment

/-- An element that is open. -/
structure OpenElement where
  name : ElementName
  id : NodeId

/-- An entry of the list of formatting elements that are to be opened again. -/
inductive Formatting where
  /-- Entries before this one are out of reach. -/
  | marker
  | element (id : NodeId) (tag : StartTag)

/-- Where in a document the next token stands. -/
inductive Mode where
  | inBody
  | text
  | inTable
  | inTableText
  | inCaption
  | inColumnGroup
  | inTableBody
  | inRow
  | inCell
  | inSelect
  | inSelectInTable
  | inTemplate
deriving DecidableEq

/-- The state of the construction. -/
structure Builder where
  arena : Arena Item
  /-- innermost first, without the element around all of them -/
  openElements : List OpenElement := []
  /-- the last one first -/
  formatting : List Formatting := []
  mode : Mode := .inBody
  /-- the mode after a text that is read in a mode of its own -/
  returnMode : Mode := .inBody
  /-- the modes of the templates that are open, innermost first -/
  templateModes : List Mode := []
  /-- text in a table that has no place yet, last character first -/
  pendingText : List Char := []
  /-- the form that is open -/
  form : Option NodeId := none
  /-- what has no place in a table goes before it -/
  fosterParenting : Bool := false
  /-- a line feed that comes next is not part of the text -/
  skipLineFeed : Bool := false
  /-- how the text after the last tag is to be read, if not as before -/
  contentModel : Option ContentModel := none

/-- The element around all others. -/
def rootElement : OpenElement := ⟨.html "html", ⟨0⟩⟩

namespace Builder

/-- Nothing but the element around all others. -/
def start : Builder :=
  { arena := ⟨#[{ payload := .element rootElement.name [] }]⟩ }

/-! ## The open elements -/

/-- The innermost open element. -/
def current (b : Builder) : OpenElement :=
  b.openElements.headD rootElement

/-- The innermost open element is one of HTML with one of these tags. -/
def currentIsIn (b : Builder) (tags : List String) : Bool :=
  b.current.name.isHtmlIn tags

/-- The innermost open element is this one of HTML. -/
def currentIs (b : Builder) (tag : String) : Bool :=
  b.currentIsIn [tag]

/-- From the inside out, an element that satisfies `p` comes before one that bounds the scope. -/
def scanScope (p : OpenElement → Bool) (bounds : ElementName → Bool) : List OpenElement → Bool
  | [] => false
  | e :: outer => p e || (!bounds e.name && scanScope p bounds outer)

/-- An element of HTML with one of these tags is in the scope. -/
def inScope (b : Builder) (bounds : ElementName → Bool) (tags : List String) : Bool :=
  scanScope (·.name.isHtmlIn tags) bounds b.openElements

/-- The element is in the usual scope. -/
def isInScope (b : Builder) (id : NodeId) : Bool :=
  scanScope (·.id == id) ElementName.boundsScope b.openElements

/-- A template is open. -/
def inTemplate (b : Builder) : Bool :=
  b.openElements.any (·.name.isHtmlIn ["template"])

/-- Close the innermost element. -/
def pop (b : Builder) : Builder :=
  { b with openElements := b.openElements.drop 1 }

/-- Close elements as long as the innermost is none of HTML with one of these tags. -/
def popUntilCurrentIn (b : Builder) (tags : List String) : Builder :=
  { b with openElements := b.openElements.dropWhile (!·.name.isHtmlIn tags) }

/-- Close elements up to the innermost one of HTML with one of these tags, and that one. -/
def popThrough (b : Builder) (tags : List String) : Builder :=
  (b.popUntilCurrentIn tags).pop

/-- Close innermost elements with these tags. -/
def closeImplied (b : Builder) (tags : List String) : Builder :=
  { b with openElements := b.openElements.dropWhile (·.name.isHtmlIn tags) }

/-- Close innermost elements that are closed by what comes after them, but not this one. -/
def closeImpliedExcept (b : Builder) (tag : String) : Builder :=
  b.closeImplied (impliedEndTags.filter (· != tag))

/-- Take an element out of the open ones, wherever it is. -/
def removeOpen (b : Builder) (id : NodeId) : Builder :=
  { b with openElements := b.openElements.filter (·.id != id) }

/-! ## Places -/

/-- Where a node is put. -/
inductive Place where
  | lastChild (parent : NodeId)
  /-- right before a table, or if that stands nowhere, at the end of the element around it -/
  | beforeTable (table around : NodeId)

/-- The element that holds what is inside a template. -/
def templateContents (b : Builder) (template : NodeId) : NodeId :=
  (b.arena.firstChild template).getD template

/-- The place for what has none in the innermost table or template. -/
def fosterPlace (b : Builder) : List OpenElement → Place
  | [] => .lastChild rootElement.id
  | e :: outer =>
    if e.name.isHtmlIn ["template"] then .lastChild (b.templateContents e.id)
    else if e.name.isHtmlIn ["table"] then
      .beforeTable e.id (outer.headD rootElement).id
    else fosterPlace b outer

/-- The place for a node that belongs into `target`. -/
def placeIn (b : Builder) (target : OpenElement) : Place :=
  if b.fosterParenting && target.name.isHtmlIn tableStructureTags then
    b.fosterPlace b.openElements
  else if target.name.isHtmlIn ["template"] then .lastChild (b.templateContents target.id)
  else .lastChild target.id

/-- Put a node into a place, taking it out of its old one. -/
def putNode (b : Builder) (place : Place) (id : NodeId) : Builder :=
  match place with
  | .lastChild parent => { b with arena := b.arena.append parent id }
  | .beforeTable table around =>
    if (b.arena.parent table).isSome then { b with arena := b.arena.insertBefore table id }
    else { b with arena := b.arena.append around id }

/-- The value of a node that is a text. -/
def text? (b : Builder) (id : NodeId) : Option String :=
  match b.arena.payload? id with
  | some (.text value) => some value
  | _ => none

/-- Put a character into a place: at the end of the text that stands there, or as a new text. -/
def putChar (b : Builder) (place : Place) (c : Char) : Builder :=
  let before := match place with
    | .lastChild parent => b.arena.lastChild parent
    | .beforeTable table around =>
      if (b.arena.parent table).isSome then b.arena.previousSibling table
      else b.arena.lastChild around
  match before.filter fun id => (b.text? id).isSome with
  | some id =>
    let push : Item → Item
      | .text value => .text (value.push c)
      | item => item
    { b with arena := b.arena.modifyPayload id push }
  | none =>
    let (arena, id) := b.arena.push (.text (String.singleton c))
    putNode { b with arena } place id

/-! ## Opening elements and adding text -/

/-- Make an element that stands nowhere yet. A template gets the fragment for its content. -/
def create (b : Builder) (name : ElementName) (attributes : List Attribute) :
    Builder × NodeId :=
  let (arena, id) := b.arena.push (.element name attributes)
  if name.isHtmlIn ["template"] then
    let (arena, contents) := arena.push .fragment
    ({ b with arena := arena.append id contents }, id)
  else ({ b with arena }, id)

/-- Make an element and put it where the next node belongs. -/
def place (b : Builder) (name : ElementName) (attributes : List Attribute) :
    Builder × NodeId :=
  let (b, id) := b.create name attributes
  (b.putNode (b.placeIn b.current) id, id)

/-- Make an element, put it where the next node belongs, and open it. -/
def enter (b : Builder) (name : ElementName) (attributes : List Attribute) :
    Builder × NodeId :=
  let (b, id) := b.place name attributes
  ({ b with openElements := ⟨name, id⟩ :: b.openElements }, id)

/-- Open an element of HTML. -/
def insert (b : Builder) (tag : StartTag) : Builder :=
  (b.enter (.html tag.name) tag.attributes).1

/-- Open an element of HTML that was not written. -/
def insertImplied (b : Builder) (tag : String) : Builder :=
  b.insert { name := tag }

/-- Put in an element of HTML without content. -/
def insertVoid (b : Builder) (tag : StartTag) : Builder :=
  (b.place (.html tag.name) tag.attributes).1

/-- Put in a character. -/
def insertChar (b : Builder) (c : Char) : Builder :=
  b.putChar (b.placeIn b.current) c

/-- Put in a comment. -/
def insertComment (b : Builder) (value : String) : Builder :=
  let (arena, id) := b.arena.push (.comment value)
  putNode { b with arena } (b.placeIn b.current) id

/-- Open an element with text only, and read that text in the given way. -/
def insertRaw (b : Builder) (tag : StartTag) (model : ContentModel) : Builder :=
  { b.insert tag with
    returnMode := b.mode, mode := .text, contentModel := some model }

/-- Close a paragraph with all that is open in it. -/
def closeParagraph (b : Builder) : Builder :=
  (b.closeImpliedExcept "p").popThrough ["p"]

/-- Close a paragraph if one is open, not counting one around a button. -/
def closeParagraphInScope (b : Builder) : Builder :=
  if b.inScope ElementName.boundsButtonScope ["p"] then b.closeParagraph else b

end Builder

end Tagdown.Html
