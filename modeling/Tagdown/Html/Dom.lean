import Tagdown.Html.Rules
import Tagdown.Html.Tokenizer

/-!
# Reading HTML

`Dom.parse` reads a text as the content of a body, as a browser would: every text is a
document, whatever tags are missing or out of place. The result is an ordered tree. It has
nodes of a sort that a document does not have: the content of a template stands in a fragment.

`Tree.ofDom` makes a document of such a tree, without these nodes and what is below them. The
nodes are numbered in the order of the text.
-/

namespace Tagdown

namespace Html

/-- Cut the text into tokens and build the tree, up to the end of the text. -/
def buildFrom : Nat → ContentModel → Builder → List Char → Builder
  | 0, _, b, _ => b
  | _ + 1, _, b, [] => b.finish
  | fuel + 1, model, b, c :: rest =>
    let cdataAllowed := b.current.name.language != .html
    let (tokens, model, rest) := nextTokens model cdataAllowed c rest
    let b := tokens.foldl Builder.feed b
    match b.contentModel with
    | some model => buildFrom fuel model { b with contentModel := none } rest
    | none => buildFrom fuel model b rest

/-- Build the tree of a text. Each round takes at least one character. -/
def build (html : String) : Builder :=
  let s := preprocess html
  buildFrom (s.length + 1) .data .start s

/-- The kinds of nodes of a text that was read. -/
inductive DomLabel where
  | element (tag : String) (attributes : List Attribute)
  | text (value : String)
  | comment (value : String)
  /-- a node that no document has -/
  | other

/-- A text that was read, as an ordered tree. -/
abbrev Dom := Rose DomLabel

/-- The kind of a node under construction. -/
def Item.toLabel : Item → DomLabel
  | element name attributes => .element name.tag attributes
  | text value => .text value
  | comment value => .comment value
  | fragment => .other

/-- The label of a node of the arena; outside of it there is nothing. -/
def Builder.labelOf (b : Builder) (id : NodeId) : DomLabel :=
  ((b.arena.payload? id).map Item.toLabel).getD .other

/-- Read a text as the content of a body. -/
def parse (html : String) : List Dom :=
  let b := build html
  ((b.arena.subtree rootElement.id).map b.labelOf).children

end Html

namespace Tree

open Html

mutual

/-- Add a copy of a tree to a document, as the last child of `parent`. -/
def copyDom (t : Tree) (parent : NodeId) : Dom → Tree
  | .node label children =>
    match label with
    | .element tag attributes =>
      let (t, id) := t.createElement tag attributes
      (copyDoms t id children).append parent id
    | .text value =>
      let (t, id) := t.createText value
      t.append parent id
    | .comment value =>
      let (t, id) := t.createComment value
      t.append parent id
    | .other => t

/-- Add copies of trees to a document, one after the other, as the last children of `parent`. -/
def copyDoms (t : Tree) (parent : NodeId) : List Dom → Tree
  | [] => t
  | dom :: doms => copyDoms (copyDom t parent dom) parent doms

end

/-- The document with the given content. -/
def ofDom (doms : List Dom) : Tree :=
  copyDoms empty root doms

/-- Read a text as a document. -/
def parseHtml (html : String) : Tree :=
  ofDom (parse html)

end Tree

end Tagdown
