import Tagdown.Html.Builder

/-!
# Formatting elements out of order

An element of formatting that is closed before the elements inside it goes on in them: the
builder keeps a list of such elements and opens them again where text follows. When the tag
that closes one comes late, after a block was opened inside, the elements are rearranged so
that the formatting ends where the tag stands and still covers all that came before it
(`adopt`).
-/

namespace Tagdown.Html.Builder

/-! ## The list of formatting elements -/

/-- The entries in reach: those after the last marker, the last one first. -/
def reachable : List Formatting → List (NodeId × StartTag)
  | .element id tag :: rest => (id, tag) :: reachable rest
  | _ => []

/-- The element is in the list. -/
def isFormatting (b : Builder) (id : NodeId) : Bool :=
  b.formatting.any fun
    | .element id' _ => id' == id
    | .marker => false

/-- Take an element out of the list. -/
def removeFormatting (b : Builder) (id : NodeId) : Builder :=
  { b with
    formatting := b.formatting.filter fun
      | .element id' _ => id' != id
      | .marker => true }

/-- Begin a part of the document from which the entries up to now are out of reach. -/
def pushMarker (b : Builder) : Builder :=
  { b with formatting := .marker :: b.formatting }

/-- Forget the entries in reach, and the marker before them. -/
def clearToMarker (b : Builder) : Builder :=
  let isElement : Formatting → Bool
    | .element _ _ => true
    | .marker => false
  { b with formatting := (b.formatting.dropWhile isElement).drop 1 }

/-- The tags have the same name and the same attributes, in any order. -/
def sameTag (s t : StartTag) : Bool :=
  s.name == t.name && s.attributes.length == t.attributes.length
    && s.attributes.all t.attributes.contains

/-- Open a formatting element and put it on the list. Of four equal entries in reach the
oldest is forgotten. -/
def insertFormatting (b : Builder) (tag : StartTag) : Builder :=
  let equal := (reachable b.formatting).filter fun (_, old) => sameTag tag old
  let b := match equal.getLast? with
    | some (oldest, _) => if 3 ≤ equal.length then b.removeFormatting oldest else b
    | none => b
  let (b, id) := b.enter (.html tag.name) tag.attributes
  { b with formatting := .element id tag :: b.formatting }

/-! ## Opening them again -/

/-- The entries that were closed since the last one that is open, with the rest of the list. -/
def closedEntries (b : Builder) : List Formatting → List StartTag × List Formatting
  | .element id tag :: rest =>
    if b.openElements.any (·.id == id) then ([], .element id tag :: rest)
    else
      let (tags, kept) := closedEntries b rest
      (tag :: tags, kept)
  | rest => ([], rest)

/-- Open again the formatting elements that were closed out of order. -/
def reopenFormatting (b : Builder) : Builder :=
  let (tags, kept) := b.closedEntries b.formatting
  tags.reverse.foldl
    (fun b tag =>
      let (b, id) := b.enter (.html tag.name) tag.attributes
      { b with formatting := .element id tag :: b.formatting })
    { b with formatting := kept }

/-! ## Closing tags without a rule of their own -/

/-- The tag closes an open element, unless an element with a place in the structure of the
document comes first, from the inside out. -/
def canClose (tag : String) : List OpenElement → Bool
  | [] => false
  | e :: outer =>
    e.name.isHtmlIn [tag] || (!e.name.isHtmlIn specialTags && canClose tag outer)

/-- Close the innermost element with this tag and all that is open in it. -/
def closeAny (b : Builder) (tag : String) : Builder :=
  if canClose tag b.openElements then b.popThrough [tag] else b

/-! ## Rearranging -/

/-- The rearrangement on its way outwards: the element last moved, the open elements kept
between the block and the formatting element, innermost first, and the entry after which the
new one goes in the list, if it is not the old one's place. -/
structure Climb where
  builder : Builder
  last : NodeId
  kept : List OpenElement := []
  bookmark : Option NodeId := none

/-- The entry of an element in the list. -/
def formattingTag? (b : Builder) (id : NodeId) : Option StartTag :=
  b.formatting.findSome? fun
    | .element id' tag => if id' = id then some tag else none
    | .marker => none

/-- Put another entry in the place of an element's. -/
def replaceFormatting (b : Builder) (id : NodeId) (entry : Formatting) : Builder :=
  { b with
    formatting := b.formatting.map fun
      | .element id' tag => if id' = id then entry else .element id' tag
      | .marker => .marker }

/-- Pass one open element between the block and the formatting element. One that is itself on
the list is cloned, and what was moved last goes into the clone; from the fourth on it is
taken off the list. One that is not on the list is closed. -/
def Climb.pass (block : NodeId) (count : Nat) (climb : Climb) (e : OpenElement) : Climb :=
  let b := climb.builder
  if 3 < count then { climb with builder := b.removeFormatting e.id }
  else
    match b.formattingTag? e.id with
    | none => climb
    | some tag =>
      let (b, clone) := b.create (.html tag.name) tag.attributes
      let b := b.replaceFormatting e.id (.element clone tag)
      { builder := { b with arena := b.arena.append clone climb.last }
        last := clone
        kept := climb.kept ++ [⟨.html tag.name, clone⟩]
        bookmark := if climb.last = block then some clone else climb.bookmark }

/-- Pass the open elements between the block and the formatting element, from the inside out. -/
def Climb.passAll (block : NodeId) : Nat → Climb → List OpenElement → Climb
  | _, climb, [] => climb
  | count, climb, e :: outer => passAll block (count + 1) (climb.pass block count e) outer

/-- Put an entry right after the one of an element. The list has the last one first. -/
def insertAfter (after : NodeId) (entry : Formatting) : List Formatting → List Formatting
  | [] => []
  | .element id tag :: rest =>
    if id = after then entry :: .element id tag :: rest
    else .element id tag :: insertAfter after entry rest
  | .marker :: rest => .marker :: insertAfter after entry rest

/-- Rearrange around a block in a formatting element. `inner` are the open elements inside the
block, `between` those between it and the formatting element, `outer` those around, all of
them innermost first. -/
def adoptBlock (b : Builder) (element : NodeId) (tag : StartTag)
    (inner : List OpenElement) (block : OpenElement) (between outer : List OpenElement) :
    Builder :=
  let climb := Climb.passAll block.id 1 { builder := b, last := block.id } between
  let b := climb.builder
  let ancestor := outer.headD rootElement
  let b : Builder := { b with arena := b.arena.detach climb.last }
  let b := b.putNode (b.placeIn ancestor) climb.last
  let (b, clone) := b.create (.html tag.name) tag.attributes
  let arena := (b.arena.children block.id).foldl (·.append clone ·) b.arena
  let arena := arena.append block.id clone
  let entry : Formatting := .element clone tag
  let b : Builder :=
    { b with
      arena
      openElements := inner ++ ⟨.html tag.name, clone⟩ :: block :: climb.kept ++ outer }
  match climb.bookmark with
  | none => b.replaceFormatting element entry
  | some after =>
    Builder.removeFormatting
      { b with formatting := insertAfter after entry b.formatting } element

/-- One round of closing a formatting element late: the new state, and whether there may be
more to do. -/
def adoptOnce (b : Builder) (tag : String) : Builder × Bool :=
  match (reachable b.formatting).find? (·.2.name == tag) with
  | none => (b.closeAny tag, false)
  | some (id, entry) =>
    let isElement (e : OpenElement) : Bool := e.id == id
    match b.openElements.dropWhile (!isElement ·) with
    | [] => (b.removeFormatting id, false)
    | _ :: outer =>
      if !b.isInScope id then (b, false)
      else
        let inside := b.openElements.takeWhile (!isElement ·)
        let isBlock (e : OpenElement) : Bool := e.name.isHtmlIn specialTags
        match inside.reverse.dropWhile (!isBlock ·) with
        | [] => (Builder.removeFormatting { b with openElements := outer } id, false)
        | block :: innerReversed =>
          let between := (inside.reverse.takeWhile (!isBlock ·)).reverse
          (b.adoptBlock id entry innerReversed.reverse block between outer, true)

/-- Up to `n` rounds. -/
def adoptTimes (tag : String) : Nat → Builder → Builder
  | 0, b => b
  | n + 1, b =>
    match b.adoptOnce tag with
    | (b, true) => adoptTimes tag n b
    | (b, false) => b

/-- Close a formatting element, however late the tag comes. -/
def adopt (b : Builder) (tag : String) : Builder :=
  if b.currentIs tag && !b.isFormatting b.current.id then b.pop
  else adoptTimes tag 8 b

end Tagdown.Html.Builder
