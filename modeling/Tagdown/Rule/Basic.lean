import Tagdown.Error
import Tagdown.Options
import Tagdown.Regex.Parse
import Tagdown.Text.Lowercase

/-!
# Rules

A `Rule` says for which nodes it is (`Filter`) and what Markdown takes their place
(`Replacement`). Both can be given as data, by tags or a pattern and by a template, or as a
function that sees the node in its document and the options in force.

A replacement is given the Markdown of what is inside the node. It fails only when it is a
template that is none.

Of a pattern a rule knows nothing but its text and where it matches. What makes patterns of texts
is a `PatternCompiler`, and what is said of rules holds whichever that is; the program takes
`Pattern.compile`, with the patterns of `Regex`.
-/

namespace Tagdown

/-- A pattern that is ready for use. -/
structure Pattern where
  /-- the text that it was written as -/
  source : String
  /-- the pattern matches somewhere in a text -/
  isMatch : String → Bool

/-- What makes a pattern of a text, or tells why the text is none. -/
abbrev PatternCompiler :=
  String → Except Regex.Fault Pattern

/-- The patterns of `Regex`. -/
def Pattern.compile : PatternCompiler := fun source =>
  (Regex.compile source).map fun regex => ⟨regex.source, regex.isMatch⟩

/-- Which nodes a rule is for. -/
inductive Filter where
  /-- the nodes with this tag, whatever the case of its letters -/
  | tagName (tag : String)
  /-- the nodes with any of these tags -/
  | tagNames (tags : List String)
  /-- the nodes whose tag the pattern matches -/
  | pattern (compiled : Pattern)
  /-- the nodes that the function accepts -/
  | predicate (accepts : NodeRef → Options → Bool)

namespace Filter

/-- A filter for one tag. -/
def tag (name : String) : Filter :=
  tagName (Text.lowercase name)

/-- A filter for any of some tags. -/
def tags (names : List String) : Filter :=
  tagNames (names.map Text.lowercase)

/-- A filter by what a compiler makes of a text, which may turn out not to be a pattern. -/
def ofPatternWith (compile : PatternCompiler) (source : String) : Except Error Filter :=
  match compile source with
  | .ok compiled => .ok (pattern compiled)
  | .error fault => .error (.invalidFilter none (.invalidPattern source fault))

/-- A filter by a pattern. -/
def ofPattern (source : String) : Except Error Filter :=
  ofPatternWith Pattern.compile source

/-- The filter accepts the node. -/
def accepts (filter : Filter) (node : NodeRef) (options : Options) : Bool :=
  match filter with
  | tagName tag => Text.eqIgnoringCase node.tagName tag
  | tagNames tags => tags.any (Text.eqIgnoringCase node.tagName)
  | pattern compiled => compiled.isMatch node.tagName
  | predicate p => p node options

/-- The filter as a diagnostic shows it. -/
def describe : Filter → String
  | tagName tag => "TagName(" ++ Text.quoted tag ++ ")"
  | tagNames tags => "TagNames([" ++ ", ".intercalate (tags.map Text.quoted) ++ "])"
  | pattern compiled => "Pattern(" ++ Text.quoted compiled.source ++ ")"
  | predicate _ => "Predicate(..)"

end Filter

/-- What takes the place of a node, from the Markdown of what is inside it. -/
inductive Replacement where
  | function (f : String → NodeRef → Options → String)
  | template (source : String)

namespace Replacement

/-- The Markdown for a node with this content. -/
def render (replacement : Replacement) (content : String) (node : NodeRef) (options : Options) :
    Except Error String :=
  match replacement with
  | function f => .ok (f content node options)
  | template source =>
    (Template.render source content node).mapError (.invalidReplacement none source)

/-- The replacement as a diagnostic shows it. -/
def describe : Replacement → String
  | function _ => "Function(..)"
  | template source => "Template(" ++ Text.quoted source ++ ")"

end Replacement

/-- What becomes of the nodes that a filter accepts. -/
structure Rule where
  filter : Filter
  replacement : Replacement

namespace Rule

/-- A rule with a function. -/
def ofFunction (filter : Filter) (f : String → NodeRef → Options → String) : Rule :=
  ⟨filter, .function f⟩

/-- A rule with a template. -/
def ofTemplate (filter : Filter) (source : String) : Rule :=
  ⟨filter, .template source⟩

/-- A rule for one tag. -/
def forTag (tag : String) (f : String → NodeRef → Options → String) : Rule :=
  ofFunction (.tag tag) f

/-- A rule for any of some tags. -/
def forTags (tags : List String) (f : String → NodeRef → Options → String) : Rule :=
  ofFunction (.tags tags) f

/-- The rule is for the node. -/
def accepts (rule : Rule) (node : NodeRef) (options : Options) : Bool :=
  rule.filter.accepts node options

/-- The Markdown that the rule makes of a node with this content. -/
def render (rule : Rule) (content : String) (node : NodeRef) (options : Options) :
    Except Error String :=
  rule.replacement.render content node options

/-- The rule as a diagnostic shows it. -/
def describe (rule : Rule) : String :=
  "Rule \x7b filter: " ++ rule.filter.describe ++ ", replacement: " ++ rule.replacement.describe
    ++ " \x7d"

end Rule

end Tagdown
