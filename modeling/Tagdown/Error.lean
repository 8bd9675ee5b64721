import Tagdown.Json.Fault
import Tagdown.Regex.Parse
import Tagdown.Rule.Template
import Tagdown.Text.Utf8

/-!
# Errors

Every way in which a conversion, or the preparation of one, can fail. An error is its cause,
with the rule that it belongs to where one is known; `Error.message` words it.
-/

namespace Tagdown

/-- Why a filter cannot be made. -/
inductive FilterFault where
  /-- The pattern is not accepted. -/
  | invalidPattern (pattern : String) (fault : Regex.Fault)
  | nothingNamed
  | severalNamed
deriving DecidableEq

/-- What the text about a pattern adds to the pattern itself. -/
def Regex.Fault.detail : Regex.Fault → String
  | malformed => ""
  | tooLarge => ": Compiled regex exceeds size limit of " ++ toString Regex.maxSize ++ " bytes."

/-- The text of a fault. -/
def FilterFault.message : FilterFault → String
  | invalidPattern pattern fault => "invalid pattern `" ++ pattern ++ "`" ++ fault.detail
  | nothingNamed => "filter names no tag, tags or pattern"
  | severalNamed => "filter must name exactly one of tag, tags or pattern"

/-- Why there is no result. -/
inductive Error where
  /-- The input is not text. -/
  | invalidInput (fault : Utf8.Fault)
  /-- A rule has a filter that cannot be made. -/
  | invalidFilter (rule : Option String) (fault : FilterFault)
  /-- A rule has a template that is none. -/
  | invalidReplacement (rule : Option String) (template : String) (fault : Template.Fault)
  /-- A document does not describe a rule set. -/
  | invalidRuleSet (fault : Json.Fault)
deriving DecidableEq

namespace Error

/-- The same error, said of a rule. -/
def inRule (key : String) : Error → Error
  | invalidFilter _ fault => invalidFilter (some key) fault
  | invalidReplacement _ template fault => invalidReplacement (some key) template fault
  | error => error

/-- The beginning of a message about a rule. -/
def rulePart : Option String → String
  | some key => "rule `" ++ key ++ "`: "
  | none => ""

/-- The text of an error. -/
def message : Error → String
  | invalidInput fault => "Invalid input: input is not valid UTF-8 text: " ++ fault.message
  | invalidFilter rule fault => "Invalid rule filter: " ++ rulePart rule ++ fault.message
  | invalidReplacement rule template fault =>
    "Invalid replacement: " ++ rulePart rule ++ "template `" ++ template ++ "`: " ++ fault.message
  | invalidRuleSet fault => "Invalid rule set: " ++ fault.message

end Error

end Tagdown
