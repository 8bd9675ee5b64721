import Tagdown.Document.Serialize
import Tagdown.Text.Quoted

/-!
# Nodes seen in their document

A `NodeRef` is a node together with the document that it stands in. It is what the filter and
the replacement of a rule are given: from it they see the node, its neighbours and all that
is around it, in the state that the document is in at that moment.
-/

namespace Tagdown

/-- A node in a document. -/
structure NodeRef where
  tree : Tree
  id : NodeId

namespace NodeRef

def label (n : NodeRef) : Label :=
  n.tree.label n.id

def isElement (n : NodeRef) : Bool :=
  n.tree.isElement n.id

def isText (n : NodeRef) : Bool :=
  n.tree.isText n.id

/-- The tag of an element, or the fixed name of another kind of node. -/
def tagName (n : NodeRef) : String :=
  n.tree.tagName n.id

def value (n : NodeRef) : String :=
  n.tree.value n.id

/-- The value of the first attribute with this name, whatever the case of its letters. -/
def attribute? (n : NodeRef) (name : String) : Option String :=
  n.tree.attribute? n.id name

def hasAttribute (n : NodeRef) (name : String) : Bool :=
  (n.attribute? name).isSome

/-- Another node of the same document. -/
def moveTo (n : NodeRef) (id : NodeId) : NodeRef :=
  { n with id }

def parent? (n : NodeRef) : Option NodeRef :=
  (n.tree.parent n.id).map n.moveTo

def firstChild? (n : NodeRef) : Option NodeRef :=
  (n.tree.firstChild n.id).map n.moveTo

def previousSibling? (n : NodeRef) : Option NodeRef :=
  (n.tree.previousSibling n.id).map n.moveTo

def nextSibling? (n : NodeRef) : Option NodeRef :=
  (n.tree.nextSibling n.id).map n.moveTo

def children (n : NodeRef) : List NodeRef :=
  (n.tree.children n.id).map n.moveTo

/-- The children that are elements. -/
def elementChildren (n : NodeRef) : List NodeRef :=
  n.children.filter isElement

/-- The place of the node among the elements that it stands with, counted from one. -/
def elementIndex (n : NodeRef) : Nat :=
  (n.tree.precedingSiblings n.id).countP n.tree.isElement + 1

def textContent (n : NodeRef) : String :=
  n.tree.textContent n.id

def innerHtml (n : NodeRef) : String :=
  n.tree.innerHtml n.id

def outerHtml (n : NodeRef) : String :=
  n.tree.outerHtml n.id

/-- The node as a diagnostic shows it: its position and its name. -/
def describe (n : NodeRef) : String :=
  "NodeRef \x7b id: NodeId(" ++ toString n.id.index ++ "), name: " ++ Text.quoted n.tagName
    ++ " \x7d"

end NodeRef

end Tagdown
