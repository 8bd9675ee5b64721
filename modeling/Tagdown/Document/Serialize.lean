import Tagdown.Document.Tree
import Tagdown.Document.Vocabulary
import Tagdown.Entity.Encode

/-!
# Printing documents

`Tree.outerHtml` writes a node as HTML and `Tree.innerHtml` what is inside it, as a browser
would. `Tree.textContent` leaves out all markup.

Each of them is a recursion on the ordered tree of contents (`Rose Node`), so what is printed
depends on that tree alone. The one thing a text takes from outside is whether it stands
directly under an element with raw text.
-/

namespace Tagdown

namespace Node

/-- A space, the name, and the value between double quotes. -/
def writeAttribute (a : Attribute) : String :=
  " " ++ a.name ++ "=\"" ++ Text.mapChars Entity.encodeAttribute a.value ++ "\""

/-- The tag that opens an element. -/
def openTag (tag : String) (attributes : List Attribute) : String :=
  "<" ++ tag ++ String.join (attributes.map writeAttribute) ++ ">"

/-- The tag that closes an element. -/
def closeTag (tag : String) : String :=
  "</" ++ tag ++ ">"

/-- A text as it stands in HTML. -/
def writeText (raw : Bool) (value : String) : String :=
  if raw then value else Text.mapChars Entity.encodeText value

/-- A comment as it stands in HTML. -/
def writeComment (value : String) : String :=
  "<!--" ++ value ++ "-->"

/-- A void element is written without a closing tag, unless something was put into it. -/
def isVoidTag (tag : String) : Bool :=
  defaultVoidTags.contains (Text.asciiLower tag)

/-- The texts directly under an element with this tag are written as they are. -/
def isRawTextTag (tag : String) : Bool :=
  rawTextTags.contains tag

mutual

/-- A document as HTML; `raw` tells whether it stands directly under an element with raw text. -/
def write (raw : Bool) : Rose Node → String
  | .node n children =>
    match n.label with
    | .text => writeText raw n.value
    | .comment => writeComment n.value
    | .document => writeAll false children
    | .element tag attributes =>
      if children.isEmpty && isVoidTag tag then openTag tag attributes
      else openTag tag attributes ++ writeAll (isRawTextTag tag) children ++ closeTag tag

/-- Documents one after the other as HTML. -/
def writeAll (raw : Bool) : List (Rose Node) → String
  | [] => ""
  | t :: ts => write raw t ++ writeAll raw ts

end

theorem writeAll_append (raw : Bool) (ts us : List (Rose Node)) :
    writeAll raw (ts ++ us) = writeAll raw ts ++ writeAll raw us := by
  induction ts with
  | nil => simp [writeAll]
  | cons t ts ih => simp [writeAll, ih, String.append_assoc]

mutual

/-- What a document adds to the text of the node that it stands in. Comments and other
documents add nothing. -/
def gatherText : Rose Node → String
  | .node n children =>
    match n.label with
    | .text => n.value
    | .element _ _ => gatherTexts children
    | .comment => ""
    | .document => ""

/-- What a row of documents adds to the text of the node that they stand in. -/
def gatherTexts : List (Rose Node) → String
  | [] => ""
  | t :: ts => gatherText t ++ gatherTexts ts

end

theorem gatherTexts_append (ts us : List (Rose Node)) :
    gatherTexts (ts ++ us) = gatherTexts ts ++ gatherTexts us := by
  induction ts with
  | nil => simp [gatherTexts]
  | cons t ts ih => simp [gatherTexts, ih, String.append_assoc]

end Node

namespace Tree

/-- The node stands directly under an element with raw text. -/
def isInRawText (t : Tree) (id : NodeId) : Bool :=
  match t.parent id with
  | some parent => Node.isRawTextTag (t.tagName parent)
  | none => false

/-- The node as HTML, with its own tags. -/
def outerHtml (t : Tree) (id : NodeId) : String :=
  Node.write (t.isInRawText id) (t.markup id)

/-- What is inside the node, as HTML. -/
def innerHtml (t : Tree) (id : NodeId) : String :=
  Node.writeAll (Node.isRawTextTag (t.tagName id)) (t.markup id).children

/-- The text of a node with everything below it, without markup. -/
def textContent (t : Tree) (id : NodeId) : String :=
  match t.label id with
  | .text => t.value id
  | .comment => ""
  | .element _ _ => Node.gatherTexts (t.markup id).children
  | .document => Node.gatherTexts (t.markup id).children

end Tree

end Tagdown
