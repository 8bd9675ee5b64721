import Tagdown.Options

/-!
# White space as a browser shows it

`Tree.normalize` edits a document so that its texts read as a browser would show them:

* comments go, and texts that then touch each other become one;
* white space in a text is collapsed to single spaces, outside preformatted elements;
* a text of nothing but white space goes when it stands next to a block, and is one space
  anywhere else;
* a block, and the document as a whole, neither begins nor ends with white space.

The no-break space counts as content throughout.

The passes follow the links of the document while they change them. Each works on the list of
children as it was when the pass came to the node, and is bounded by the number of nodes.
-/

namespace Tagdown

open Text (isCollapsible)

/-- Every run of white space made one space; `afterSpace` tells whether the text follows a
space already written. -/
def collapseFrom (afterSpace : Bool) : List Char → List Char
  | [] => []
  | c :: rest =>
    if isCollapsible c then
      if afterSpace then collapseFrom true rest else ' ' :: collapseFrom true rest
    else c :: collapseFrom false rest

/-- Every run of white space made one space. -/
def collapseWhitespace (s : List Char) : List Char :=
  collapseFrom false s

namespace Tree

/-! ## Comments -/

/-- Add a text to the text right before it, if there is one. -/
def mergeIntoPrevious (t : Tree) (id : NodeId) : Tree :=
  match t.label id, t.previousSibling id with
  | .text, some previous =>
    if t.isText previous then
      (t.setValue previous (t.value previous ++ t.value id) : Tree).detach id
    else t
  | _, _ => t

/-- Take out the comments below a node and merge the texts that they kept apart. -/
def stripComments : Nat → Tree → NodeId → Tree
  | 0, t, _ => t
  | fuel + 1, t, id =>
    let stripChild (t : Tree) (child : NodeId) : Tree :=
      match t.label child with
      | .comment => t.detach child
      | .element _ _ => stripComments fuel t child
      | .document => stripComments fuel t child
      | .text => t
    let stripped := (t.children id).foldl stripChild t
    (stripped.children id).foldl mergeIntoPrevious stripped

/-! ## The ends of a block -/

/-- Drop white space where the content of a node begins; texts that are left empty go. -/
def trimStart : Nat → Tree → NodeId → Tree
  | 0, t, _ => t
  | fuel + 1, t, id =>
    match t.firstChild id with
    | none => t
    | some first =>
      if t.isText first then
        let trimmed := Text.trimStartWhile isCollapsible (t.value first).toList
        if trimmed.isEmpty then trimStart fuel (t.detach first) id
        else t.setValue first (String.ofList trimmed)
      else t

/-- Drop white space where the content of a node ends; texts that are left empty go. -/
def trimEnd : Nat → Tree → NodeId → Tree
  | 0, t, _ => t
  | fuel + 1, t, id =>
    match t.lastChild id with
    | none => t
    | some last =>
      if t.isText last then
        let trimmed := Text.trimEndWhile isCollapsible (t.value last).toList
        if trimmed.isEmpty then trimEnd fuel (t.detach last) id
        else t.setValue last (String.ofList trimmed)
      else t

/-- Trim the content of a node by editing the texts at its two ends. -/
def trimContent (t : Tree) (id : NodeId) : Tree :=
  let t := trimStart t.size t id
  trimEnd t.size t id

/-- The content of the node is to be trimmed: it is the document, or a block whose white space
is not kept. -/
def shouldTrim (t : Tree) (options : Options) (id : NodeId) : Bool :=
  match t.label id with
  | .document => true
  | .element tag _ => options.isBlock tag && !options.isPreformatted tag
  | .text => false
  | .comment => false

/-! ## Texts -/

/-- The node is an element that stands as a block. -/
def isBlockElement (t : Tree) (options : Options) (id : NodeId) : Bool :=
  t.isElement id && options.isBlock (t.tagName id)

/-- A block stands right before or right after the node. -/
def hasAdjacentBlock (t : Tree) (options : Options) (id : NodeId) : Bool :=
  (t.previousSibling id).any (t.isBlockElement options)
    || (t.nextSibling id).any (t.isBlockElement options)

/-- The node is an element whose white space is kept. -/
def isPreformattedElement (t : Tree) (options : Options) (id : NodeId) : Bool :=
  t.isElement id && options.isPreformatted (t.tagName id)

/-- Collapse the white space of a text, or drop the text if it is white space next to a block. -/
def normalizeText (options : Options) (t : Tree) (id : NodeId) : Tree :=
  match t.parent id with
  | none => t
  | some parent =>
    if t.isPreformattedElement options parent then t
    else
      let value := (t.value id).toList
      if value.all isCollapsible then
        if t.hasAdjacentBlock options id then t.detach id else t.setValue id " "
      else t.setValue id (String.ofList (collapseWhitespace value))

/-! ## The whole document -/

/-- Trim and collapse the white space of a node and of all that is below it. -/
def normalizeNode (options : Options) : Nat → Tree → NodeId → Tree
  | 0, t, _ => t
  | fuel + 1, t, id =>
    let normalizeChildren (t : Tree) : Tree :=
      let t := if t.shouldTrim options id then t.trimContent id else t
      (t.children id).foldl (normalizeNode options fuel) t
    match t.label id with
    | .text => normalizeText options t id
    | .comment => t.detach id
    | .element _ _ => normalizeChildren t
    | .document => normalizeChildren t

/-- Make the white space of a document what a browser shows. -/
def normalize (t : Tree) (options : Options) : Tree :=
  let t := stripComments t.size t root
  normalizeNode options t.size t root

end Tree

end Tagdown
