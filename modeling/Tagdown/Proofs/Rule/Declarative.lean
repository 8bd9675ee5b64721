import Mathlib.Data.List.Find
import Tagdown.RuleSetConfig

/-!
# Rules given as data

A rule that is given as data has a filter by tags or by a pattern, and a template. Of the
document it sees no more than the tag and the attributes of its element, so it makes the same
of an element wherever that stands (`RuleSet.find?_congr`, `Rule.render_congr`).

The rules that a document describes are of this kind, whatever its patterns are compiled to
(`RuleSetConfig.isDeclarative_buildRulesWith`). The bundled ones are not.
-/

namespace Tagdown

/-- The filter goes by the tag alone. -/
def Filter.IsDeclarative : Filter → Prop
  | tagName _ => True
  | tagNames _ => True
  | pattern _ => True
  | predicate _ => False

/-- The replacement is a template. -/
def Replacement.IsDeclarative : Replacement → Prop
  | function _ => False
  | template _ => True

/-- Both parts of the rule are given as data. -/
def Rule.IsDeclarative (rule : Rule) : Prop :=
  rule.filter.IsDeclarative ∧ rule.replacement.IsDeclarative

/-- All rules of the set are given as data. -/
def RuleSet.IsDeclarative (rules : RuleSet) : Prop :=
  ∀ entry ∈ rules.entries, entry.2.IsDeclarative

/-! ## What such rules see

Tag and attributes are what a label has, and so nodes with the same label are the same to a
filter by tags, to a pattern, and to a template with its content given. -/

section Label

variable {n m : NodeRef} (h : n.label = m.label)
include h

/-- The tag is a part of the kind. -/
theorem NodeRef.tagName_congr : n.tagName = m.tagName :=
  congrArg Label.name h

/-- So is each attribute. -/
theorem NodeRef.attribute?_congr (name : String) : n.attribute? name = m.attribute? name := by
  show ((n.label).attributes.find? _).map _ = ((m.label).attributes.find? _).map _
  rw [h]

/-- A filter that is given as data looks at nothing else. -/
theorem Filter.accepts_congr {filter : Filter} (declarative : filter.IsDeclarative)
    (options : Options) : filter.accepts n options = filter.accepts m options := by
  cases filter with
  | predicate p => exact declarative.elim
  | _ => rw [accepts, accepts, NodeRef.tagName_congr h]

/-- A placeholder is filled from the content or from an attribute. -/
theorem Template.Segment.fill_congr (content : String) (segment : Template.Segment) :
    segment.fill content n = segment.fill content m := by
  cases segment with
  | tag => exact NodeRef.tagName_congr h
  | «attribute» name => rw [fill, fill, NodeRef.attribute?_congr h]
  | _ => rfl

/-- A template comes to the same text for both, or to the same error. -/
theorem Template.render_congr (source content : String) :
    Template.render source content n = Template.render source content m := by
  have fill : (fun segment : Template.Segment => segment.fill content n) =
      fun segment => segment.fill content m := funext (Segment.fill_congr h content)
  rw [render, render, fill]

/-- What a declarative rule makes of a node and its content. -/
theorem Rule.render_congr {rule : Rule} (declarative : rule.IsDeclarative) (content : String)
    (options : Options) : rule.render content n options = rule.render content m options := by
  obtain ⟨filter, replacement⟩ := rule
  cases replacement with
  | function f => exact declarative.2.elim
  | template source =>
    show (Template.render source content n).mapError _ =
      (Template.render source content m).mapError _
    rw [Template.render_congr h]

/-- Which rule is for a node. -/
theorem RuleSet.find?_congr {rules : RuleSet} (declarative : rules.IsDeclarative)
    (options : Options) : rules.find? n options = rules.find? m options := by
  refine List.find?_congr fun entry hentry => ?_
  exact Filter.accepts_congr h (declarative entry hentry).1 options

end Label

/-! ## Where they come from

Descriptions have no way to name a function, so whatever they build is declarative. The bundled
rules come in only if they are asked for. -/

/-- One more rule that is given as data keeps the set so. -/
theorem RuleSet.IsDeclarative.insert {rules : RuleSet} (h : rules.IsDeclarative) (key : String)
    {rule : Rule} (hrule : rule.IsDeclarative) : (rules.insert key rule).IsDeclarative := by
  intro entry hentry
  rw [RuleSet.insert] at hentry
  split at hentry
  · obtain ⟨old, hold, rfl⟩ := List.mem_map.1 hentry
    split
    · exact hrule
    · exact h old hold
  · rcases List.mem_append.1 hentry with hentry | hentry
    · exact h entry hentry
    · rw [List.mem_singleton.1 hentry]
      exact hrule

section Built

variable {compile : PatternCompiler}

/-- A filter that is described goes by the tag, also when it is one by a pattern. -/
theorem FilterSpec.isDeclarative_toFilterWith {spec : FilterSpec} {rule : String} {filter : Filter}
    (h : spec.toFilterWith compile rule = .ok filter) : filter.IsDeclarative := by
  rw [toFilterWith] at h
  split at h
  · cases h
    trivial
  · cases h
    trivial
  · rename_i source _ _ _
    rw [Filter.ofPatternWith] at h
    cases hcompile : compile source with
    | error fault =>
      rw [hcompile] at h
      cases h
    | ok compiled =>
      rw [hcompile] at h
      cases h
      trivial
  · cases h
  · cases h

namespace RuleSetConfig

/-- Descriptions add rules that are given as data to those that are there. -/
theorem isDeclarative_foldlM (specs : List RuleSpec) :
    ∀ {rules built : RuleSet}, rules.IsDeclarative →
      specs.foldlM (addRule compile) rules = .ok built → built.IsDeclarative := by
  induction specs with
  | nil =>
    intro rules built h hbuilt
    cases hbuilt
    exact h
  | cons spec specs ih =>
    intro rules built h hbuilt
    rw [List.foldlM_cons, addRule] at hbuilt
    cases hfilter : spec.filter.toFilterWith compile spec.name with
    | error fault =>
      rw [hfilter] at hbuilt
      cases hbuilt
    | ok filter =>
      rw [hfilter] at hbuilt
      have hrule : (Rule.ofTemplate filter spec.replacement).IsDeclarative :=
        ⟨FilterSpec.isDeclarative_toFilterWith hfilter, trivial⟩
      exact ih (h.insert spec.name hrule) hbuilt

/-- Without the bundled rules, a document describes rules that are given as data. -/
theorem isDeclarative_buildRulesWith {config : RuleSetConfig} {rules : RuleSet}
    (hstandard : config.includeStandard = false) (h : config.buildRulesWith compile = .ok rules) :
    rules.IsDeclarative := by
  rw [buildRulesWith, hstandard] at h
  cases hfold : config.rules.foldlM (addRule compile) .empty with
  | error fault =>
    rw [hfold] at h
    cases h
  | ok built =>
    rw [hfold] at h
    cases h
    refine isDeclarative_foldlM config.rules ?_ hfold
    intro entry hentry
    cases hentry

end RuleSetConfig

end Built

end Tagdown
