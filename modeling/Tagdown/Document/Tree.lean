import Tagdown.Arena.Subtree
import Tagdown.Text.Character

/-!
# Documents

A `Tree` is an arena of document nodes whose first node is the document itself. The nodes are
elements, texts and comments; an element has a tag in lower case and its attributes in order.

`Tree.markup` is the document below a node as an ordered tree of contents. Everything that
prints or measures a document is defined on it.
-/

namespace Tagdown

/-- An attribute of an element, with its name as it was given. -/
structure Attribute where
  name : String
  value : String
deriving DecidableEq

/-- What kind of node it is, and for an element, which element. -/
inductive Label where
  | document
  | element (tag : String) (attributes : List Attribute)
  | text
  | comment
deriving DecidableEq

/-- The content of a node. The value is the character data of a text or a comment. Any node
can be given one, but the others do not show it in what they print. -/
structure Node where
  label : Label
  value : String := ""
deriving DecidableEq

namespace Label

/-- The tag of an element; the other kinds have a fixed name that begins with `#`. -/
def name : Label → String
  | document => "#document"
  | element tag _ => tag
  | text => "#text"
  | comment => "#comment"

def isElement : Label → Bool
  | element _ _ => true
  | _ => false

def isText : Label → Bool
  | text => true
  | _ => false

/-- The attributes of an element; the other kinds have none. -/
def attributes : Label → List Attribute
  | element _ attributes => attributes
  | _ => []

end Label

/-- The document node without any content. -/
def Node.emptyDocument : Node := { label := .document }

/-- A document, complete or in the middle of a change. -/
abbrev Tree := Arena Node

namespace Tree

/-- A document with nothing in it. -/
def empty : Tree :=
  ⟨#[{ payload := .emptyDocument }]⟩

/-- The document node of every tree. -/
def root : NodeId := ⟨0⟩

/-! ## Reading single nodes -/

/-- The content of a node. Outside the arena there are only empty documents. -/
def node (t : Tree) (id : NodeId) : Node :=
  (t.payload? id).getD .emptyDocument

def label (t : Tree) (id : NodeId) : Label :=
  (t.node id).label

def value (t : Tree) (id : NodeId) : String :=
  (t.node id).value

/-- The tag of an element, or the fixed name of another kind of node. -/
def tagName (t : Tree) (id : NodeId) : String :=
  (t.label id).name

def isElement (t : Tree) (id : NodeId) : Bool :=
  (t.label id).isElement

def isText (t : Tree) (id : NodeId) : Bool :=
  (t.label id).isText

/-- The value of the first attribute with this name, whatever the case of its letters. -/
def attribute? (t : Tree) (id : NodeId) (name : String) : Option String :=
  ((t.label id).attributes.find? fun a => Text.eqIgnoringCase a.name name).map Attribute.value

/-! ## Making and changing nodes -/

/-- Make an element that stands nowhere yet. Its tag is put into lower case. -/
def createElement (t : Tree) (tag : String) (attributes : List Attribute) : Tree × NodeId :=
  t.push { label := .element (Text.asciiLower tag) attributes }

/-- Make a text that stands nowhere yet. -/
def createText (t : Tree) (value : String) : Tree × NodeId :=
  t.push { label := .text, value }

/-- Make a comment that stands nowhere yet. -/
def createComment (t : Tree) (value : String) : Tree × NodeId :=
  t.push { label := .comment, value }

/-- Give a node another value. -/
def setValue (t : Tree) (id : NodeId) (value : String) : Tree :=
  t.modifyPayload id ({ · with value })

/-! ## The document below a node -/

/-- The node with all that is below it, as an ordered tree of contents. -/
def markup (t : Tree) (id : NodeId) : Rose Node :=
  (t.subtree id).map t.node

end Tree

end Tagdown
