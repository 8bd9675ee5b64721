import Tagdown.Converter
import Tagdown.Json.Decoder

/-!
# Rule sets as documents

A conversion can be described by a JSON document: rules with a template each, whether the
bundled rules follow them, and what differs from the usual options. `RuleSetConfig.ofJson`
reads such a document, and `Converter.ofConfig` makes the converter that it describes.

A document can be read and still describe no converter, when a filter of a rule names nothing,
or more than one thing, or a pattern that is none.
-/

namespace Tagdown

/-- The description of a filter. One of the three is to be given. -/
structure FilterSpec where
  tag : Option String := none
  tags : Option (List String) := none
  pattern : Option String := none

/-- The description of a rule with a template. -/
structure RuleSpec where
  name : String
  filter : FilterSpec
  replacement : String

/-- The description of a rule set and of its options. -/
structure RuleSetConfig where
  rules : List RuleSpec := []
  /-- the bundled rules come after these -/
  includeStandard : Bool := false
  voidElements : Option (List String) := none
  blockElements : Option (List String) := none
  preformatted : Option (List String) := none
  unmatched : UnmatchedPolicy := .unwrap

/-! ## Reading -/

namespace FilterSpec

/-- A description that is being read: for each field, whether it was there, and its value. -/
structure Draft where
  tag : Option (Option String) := none
  tags : Option (Option (List String)) := none
  pattern : Option (Option String) := none

open Json in
/-- The fields of the description of a filter. -/
def fields : List (RecordField Draft) :=
  [{ name := "tag", isSet := (·.tag.isSome),
     read := fun d ts => (optional string ts).map fun (v, ts) => ({ d with tag := some v }, ts) },
   { name := "tags", isSet := (·.tags.isSome),
     read := fun d ts =>
       (optional (array string) ts).map fun (v, ts) => ({ d with tags := some v }, ts) },
   { name := "pattern", isSet := (·.pattern.isSome),
     read := fun d ts =>
       (optional string ts).map fun (v, ts) => ({ d with pattern := some v }, ts) }]

/-- Read the description of a filter. -/
def decoder : Json.Decoder FilterSpec :=
  Json.record "FilterSpec" fields {} fun d => .ok
    { tag := d.tag.join, tags := d.tags.join, pattern := d.pattern.join }

/-- The filter that is described, for a rule with this name, with what a compiler makes of its
pattern. -/
def toFilterWith (compile : PatternCompiler) (spec : FilterSpec) (rule : String) :
    Except Error Filter :=
  match spec.tag, spec.tags, spec.pattern with
  | some tag, none, none => .ok (.tag tag)
  | none, some tags, none => .ok (.tags tags)
  | none, none, some pattern => (Filter.ofPatternWith compile pattern).mapError (.inRule rule)
  | none, none, none => .error (.invalidFilter (some rule) .nothingNamed)
  | _, _, _ => .error (.invalidFilter (some rule) .severalNamed)

/-- The filter that is described. -/
def toFilter (spec : FilterSpec) (rule : String) : Except Error Filter :=
  spec.toFilterWith Pattern.compile rule

end FilterSpec

namespace RuleSpec

/-- A description that is being read. -/
structure Draft where
  name : Option String := none
  filter : Option FilterSpec := none
  replacement : Option String := none

open Json in
/-- The fields of the description of a rule. -/
def fields : List (RecordField Draft) :=
  [{ name := "name", isSet := (·.name.isSome),
     read := fun d ts => (string ts).map fun (v, ts) => ({ d with name := some v }, ts) },
   { name := "filter", isSet := (·.filter.isSome),
     read := fun d ts =>
       (FilterSpec.decoder ts).map fun (v, ts) => ({ d with filter := some v }, ts) },
   { name := "replacement", isSet := (·.replacement.isSome),
     read := fun d ts => (string ts).map fun (v, ts) => ({ d with replacement := some v }, ts) }]

/-- Read the description of a rule. All its fields must be there. -/
def decoder : Json.Decoder RuleSpec :=
  Json.record "RuleSpec" fields {} fun d => do
    let name ← Json.require "name" d.name
    let filter ← Json.require "filter" d.filter
    let replacement ← Json.require "replacement" d.replacement
    .ok { name, filter, replacement }

end RuleSpec

namespace RuleSetConfig

/-- A description that is being read. -/
structure Draft where
  rules : Option (List RuleSpec) := none
  includeStandard : Option Bool := none
  voidElements : Option (Option (List String)) := none
  blockElements : Option (Option (List String)) := none
  preformatted : Option (Option (List String)) := none
  unmatched : Option UnmatchedPolicy := none

/-- The names of what can happen to an unmatched element. -/
def policies : List (String × UnmatchedPolicy) :=
  [("unwrap", .unwrap), ("keep", .keep)]

open Json in
/-- The fields of the description of a rule set. -/
def fields : List (RecordField Draft) :=
  [{ name := "rules", isSet := (·.rules.isSome), hasDefault := true,
     read := fun d ts =>
       (array RuleSpec.decoder ts).map fun (v, ts) => ({ d with rules := some v }, ts) },
   { name := "include_standard", isSet := (·.includeStandard.isSome), hasDefault := true,
     read := fun d ts =>
       (bool ts).map fun (v, ts) => ({ d with includeStandard := some v }, ts) },
   { name := "void_elements", isSet := (·.voidElements.isSome),
     read := fun d ts =>
       (optional (array string) ts).map fun (v, ts) => ({ d with voidElements := some v }, ts) },
   { name := "block_elements", isSet := (·.blockElements.isSome),
     read := fun d ts =>
       (optional (array string) ts).map fun (v, ts) => ({ d with blockElements := some v }, ts) },
   { name := "preformatted", isSet := (·.preformatted.isSome),
     read := fun d ts =>
       (optional (array string) ts).map fun (v, ts) => ({ d with preformatted := some v }, ts) },
   { name := "unmatched", isSet := (·.unmatched.isSome), hasDefault := true,
     read := fun d ts =>
       (variant policies ts).map fun (v, ts) => ({ d with unmatched := some v }, ts) }]

/-- Read the description of a rule set. -/
def decoder : Json.Decoder RuleSetConfig :=
  Json.record "RuleSetConfig" fields {} fun d => .ok
    { rules := d.rules.getD []
      includeStandard := d.includeStandard.getD false
      voidElements := d.voidElements.join
      blockElements := d.blockElements.join
      preformatted := d.preformatted.join
      unmatched := d.unmatched.getD .unwrap }

/-- Read the document that describes a rule set. -/
def ofJson (document : String) : Except Error RuleSetConfig :=
  (Json.decode decoder document).mapError .invalidRuleSet

/-! ## Building -/

/-- Add the rule that is described. -/
def addRule (compile : PatternCompiler) (rules : RuleSet) (spec : RuleSpec) :
    Except Error RuleSet :=
  (spec.filter.toFilterWith compile spec.name).map fun filter =>
    rules.insert spec.name (.ofTemplate filter spec.replacement)

/-- The rules that are described, with what a compiler makes of their patterns. There are none at
all if one of them has a filter that cannot be made. -/
def buildRulesWith (compile : PatternCompiler) (config : RuleSetConfig) : Except Error RuleSet :=
  (config.rules.foldlM (addRule compile) .empty).map fun rules =>
    if config.includeStandard then rules.extend .standard else rules

/-- The rules that are described. -/
def buildRules (config : RuleSetConfig) : Except Error RuleSet :=
  config.buildRulesWith Pattern.compile

/-- The usual options with the differences that are described. -/
def buildOptions (config : RuleSetConfig) : Options :=
  let usual : Options := {}
  { voidElements := (config.voidElements.map TagSet.ofTags).getD usual.voidElements
    blockElements := (config.blockElements.map TagSet.ofTags).getD usual.blockElements
    preformatted := (config.preformatted.map TagSet.ofTags).getD usual.preformatted
    unmatched := config.unmatched }

end RuleSetConfig

/-- The converter that is described. -/
def Converter.ofConfig (config : RuleSetConfig) : Except Error Converter :=
  config.buildRules.map fun rules => { rules, options := config.buildOptions }

end Tagdown
