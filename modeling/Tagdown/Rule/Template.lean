import Tagdown.Document.NodeRef

/-!
# Templates

A template is a text with placeholders that a rule fills in. It is a row of segments:

* `{content}` for the Markdown of what is inside the element,
* `{tag}` for its tag,
* `{attr:NAME}` for the value of an attribute, empty when there is none,
* `{{` and `}}` for the braces themselves,
* and any other text for itself.

`Template.parse` finds the segments or the first fault, from the text of the template alone.
What is put in for a placeholder is not looked at again.
-/

namespace Tagdown.Template

/-- A part of a template. -/
inductive Segment where
  | literal (c : Char)
  | openBrace
  | closeBrace
  | content
  | tag
  | attribute (name : String)
deriving DecidableEq

/-- Why a text is not a template. -/
inductive Fault where
  | unterminatedPlaceholder
  | unmatchedClosingBrace
  | unknownPlaceholder (name : String)
deriving DecidableEq

/-- The text of a fault. -/
def Fault.message : Fault → String
  | unterminatedPlaceholder => "unterminated placeholder"
  | unmatchedClosingBrace => "unmatched `\x7d`"
  | unknownPlaceholder name => "unknown placeholder `\x7b" ++ name ++ "\x7d`"

/-- The segment that a name in braces stands for. -/
def placeholder (name : List Char) : Except Fault Segment :=
  if name = "content".toList then .ok .content
  else if name = "tag".toList then .ok .tag
  else
    match name with
    | 'a' :: 't' :: 't' :: 'r' :: ':' :: c :: rest =>
      .ok (.attribute (String.ofList (c :: rest)))
    | name => .error (.unknownPlaceholder (String.ofList name))

/-- Find the segments of a text. Inside a placeholder, `pending` is its name so far, last
character first. -/
def parseFrom : Option (List Char) → List Char → Except Fault (List Segment)
  | none, [] => .ok []
  | none, '{' :: '{' :: rest => (parseFrom none rest).map (.openBrace :: ·)
  | none, '{' :: rest => parseFrom (some []) rest
  | none, '}' :: '}' :: rest => (parseFrom none rest).map (.closeBrace :: ·)
  | none, '}' :: _ => .error .unmatchedClosingBrace
  | none, c :: rest => (parseFrom none rest).map (.literal c :: ·)
  | some _, [] => .error .unterminatedPlaceholder
  | some pending, '}' :: rest =>
    match placeholder pending.reverse with
    | .ok segment => (parseFrom none rest).map (segment :: ·)
    | .error fault => .error fault
  | some pending, c :: rest => parseFrom (some (c :: pending)) rest

/-- Find the segments of a template. -/
def parse (template : String) : Except Fault (List Segment) :=
  parseFrom none template.toList

/-- What a segment becomes for an element and its content. -/
def Segment.fill (content : String) (node : NodeRef) : Segment → String
  | .literal c => String.singleton c
  | .openBrace => "\x7b"
  | .closeBrace => "\x7d"
  | .content => content
  | .tag => node.tagName
  | .attribute name => (node.attribute? name).getD ""

/-- Fill in a template for an element and its content. -/
def render (template : String) (content : String) (node : NodeRef) : Except Fault String :=
  (parse template).map fun segments => String.join (segments.map (·.fill content node))

end Tagdown.Template
