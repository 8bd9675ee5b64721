import Tagdown.Rule.Standard

/-!
# Rule sets

A `RuleSet` is a list of named rules, tried in order. A name stands for one rule: to add it
again puts the new rule in the place of the old one.
-/

namespace Tagdown

/-- Named rules in the order in which they are tried. -/
structure RuleSet where
  entries : List (String × Rule)

namespace RuleSet

/-- No rules. -/
def empty : RuleSet := ⟨[]⟩

/-- The rule with this name. -/
def get? (rules : RuleSet) (key : String) : Option Rule :=
  (rules.entries.find? (·.1 == key)).map Prod.snd

/-- The name stands for a rule. -/
def contains (rules : RuleSet) (key : String) : Bool :=
  rules.entries.any (·.1 == key)

/-- Give a name to a rule: in the place of the rule with that name, or else at the end. -/
def insert (rules : RuleSet) (key : String) (rule : Rule) : RuleSet :=
  if rules.contains key then
    ⟨rules.entries.map fun entry => if entry.1 == key then (key, rule) else entry⟩
  else ⟨rules.entries ++ [(key, rule)]⟩

/-- Take the rule with this name out. -/
def erase (rules : RuleSet) (key : String) : RuleSet :=
  ⟨rules.entries.filter (·.1 != key)⟩

/-- Add a rule at the end, unless its name is taken. -/
def insertIfNew (rules : RuleSet) (key : String) (rule : Rule) : RuleSet :=
  if rules.contains key then rules else ⟨rules.entries ++ [(key, rule)]⟩

/-- Add the rules of another set whose names are not taken. -/
def extend (rules other : RuleSet) : RuleSet :=
  other.entries.foldl (fun rules (key, rule) => rules.insertIfNew key rule) rules

/-- The set of the given rules, added one after the other. -/
def ofList (entries : List (String × Rule)) : RuleSet :=
  entries.foldl (fun rules (key, rule) => rules.insert key rule) empty

/-- The bundled rules. -/
def standard : RuleSet :=
  ofList Rule.standard

def size (rules : RuleSet) : Nat :=
  rules.entries.length

def isEmpty (rules : RuleSet) : Bool :=
  rules.entries.isEmpty

/-- The names in order. -/
def names (rules : RuleSet) : List String :=
  rules.entries.map Prod.fst

/-- The first rule that is for the node, with its name. -/
def find? (rules : RuleSet) (node : NodeRef) (options : Options) : Option (String × Rule) :=
  rules.entries.find? fun entry => entry.2.accepts node options

end RuleSet

end Tagdown
