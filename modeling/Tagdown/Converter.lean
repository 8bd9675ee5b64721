import Tagdown.Html.Dom
import Tagdown.LevelOrder
import Tagdown.Normalize
import Tagdown.Rule.RuleSet

/-!
# The conversion

A `Converter` is a rule set with options. `Converter.convertTree` turns a document into
Markdown by changing it in place: its white space is normalized, and then its elements are
visited from the last level to the first, so that all below an element is Markdown when its
turn comes. An element is replaced by a text with what the first rule for it makes of its
content. One that is blank goes without asking any rule. What is left in the end is printed.

The document changes all the while: a rule sees the neighbours of its element in the
state that they are in at that moment.
-/

namespace Tagdown

/-- A rule set and the options of a conversion. -/
structure Converter where
  rules : RuleSet
  options : Options := {}

namespace Converter

/-- The bundled rules with the usual options. -/
def standard : Converter :=
  { rules := .standard }

/-- Change the rules. -/
def mapRules (c : Converter) (f : RuleSet → RuleSet) : Converter :=
  { c with rules := f c.rules }

/-- Change the options. -/
def mapOptions (c : Converter) (f : Options → Options) : Converter :=
  { c with options := f c.options }

/-- The Markdown that takes the place of an element, or nothing if no rule is for it. An
element without content becomes empty text, unless it is one that never has any. -/
def replacement? (c : Converter) (node : NodeRef) : Except Error (Option String) :=
  let inner := node.innerHtml
  if !c.options.isVoid node.tagName && Text.isBlank inner.toList then .ok (some "")
  else
    match c.rules.find? node c.options with
    | none => .ok none
    | some (key, rule) =>
      ((rule.render (decodeEntities inner) node c.options).mapError (.inRule key)).map some

/-- Visit one element: put Markdown in its place, or do what the options say when no rule is
for it. An element that stands nowhere is left alone. -/
def visit (c : Converter) (t : Tree) (id : NodeId) : Except Error Tree :=
  if (t.parent id).isNone then .ok t
  else
    (c.replacement? ⟨t, id⟩).map fun
      | some markdown =>
        let (t, text) := t.createText markdown
        t.replace id text
      | none =>
        match c.options.unmatched with
        | .unwrap => t.unwrap id
        | .keep => t

/-- Visit elements one after the other, up to the first failure. -/
def visitAll (c : Converter) (t : Tree) (ids : List NodeId) : Except Error Tree :=
  ids.foldlM c.visit t

/-- The final text of a document after all visits. -/
def finish (t : Tree) : String :=
  Text.mapChars Text.tidy (decodeEntities (t.innerHtml Tree.root))

/-- Turn a document into Markdown. -/
def convertTree (c : Converter) (t : Tree) : Except Error String :=
  let t := t.normalize c.options
  (c.visitAll t (t.levelOrder Tree.root).reverse).map finish

/-- Turn HTML into Markdown. What could be read as the number of a list item is escaped
first. -/
def convert (c : Converter) (html : String) : Except Error String :=
  c.convertTree (Tree.parseHtml (Text.mapChars Text.escapeListMarkers html))

/-- Turn bytes, which must be HTML in UTF-8, into Markdown. -/
def convertBytes (c : Converter) (bytes : List UInt8) : Except Error String :=
  ((Utf8.decode bytes).mapError .invalidInput).bind c.convert

end Converter

/-- Turn HTML into Markdown with the bundled rules and the usual options. -/
def convert (html : String) : Except Error String :=
  Converter.standard.convert html

end Tagdown
