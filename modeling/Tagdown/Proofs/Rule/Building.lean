import Tagdown.Proofs.Rule.Bundled
import Tagdown.Proofs.Rule.History

/-!
# Building the rule set that a document describes

The description of a filter has a fault, or it describes a filter
(`FilterSpec.hasFault_or_describes`). As long as there is no fault, the rules that have been
described make up the set (`RuleSetConfig.IsBuilt`): one more description adds its rule or puts
it in the place of an earlier one (`RuleSetConfig.IsBuilt.concat`). The first fault is the error,
and then there is no set.

Which texts are patterns is up to a compiler that is given, and all of this holds for any.
-/

namespace Tagdown

variable {compile : PatternCompiler}

/-! ## One filter

A filter is described by three optional parts of which exactly one is to be given. The faults are
the other numbers of parts, and a text that the compiler refuses. -/

namespace FilterSpec

/-- How many of the three are given. -/
def given (spec : FilterSpec) : Nat :=
  [spec.tag.isSome, spec.tags.isSome, spec.pattern.isSome].count true

/-- There is no such filter, for this reason. -/
def HasFault (compile : PatternCompiler) (spec : FilterSpec) : FilterFault → Prop
  | .nothingNamed => spec.given = 0
  | .severalNamed => 1 < spec.given
  | .invalidPattern source fault =>
    spec.given = 1 ∧ spec.pattern = some source ∧ compile source = .error fault

/-- This is the filter: it goes by what is given, and nothing else is. -/
def Describes (compile : PatternCompiler) (spec : FilterSpec) (filter : Filter) : Prop :=
  spec.given = 1 ∧
    ((∃ name, spec.tag = some name ∧ filter = .tag name) ∨
     (∃ names, spec.tags = some names ∧ filter = .tags names) ∨
     ∃ source compiled, spec.pattern = some source ∧ compile source = .ok compiled ∧
       filter = .pattern compiled)

variable {spec : FilterSpec} {fault : FilterFault} {filter : Filter}

/-- With nothing but a pattern, it is the pattern that is compiled. -/
theorem toFilterWith_of_pattern {source : String} (one : spec.given = 1)
    (hpattern : spec.pattern = some source) (rule : String) :
    spec.toFilterWith compile rule =
      (Filter.ofPatternWith compile source).mapError (.inRule rule) := by
  obtain ⟨tag, tags, pattern⟩ := spec
  obtain rfl : pattern = some source := hpattern
  cases tag <;> cases tags <;> simp [given] at one
  rfl

/-- A fault is the error, with the name of the rule. -/
theorem toFilterWith_of_hasFault (h : spec.HasFault compile fault) (rule : String) :
    spec.toFilterWith compile rule = .error (.invalidFilter (some rule) fault) := by
  cases fault with
  | nothingNamed =>
    obtain ⟨tag, tags, pattern⟩ := spec
    cases tag <;> cases tags <;> cases pattern <;> simp [HasFault, given] at h
    rfl
  | severalNamed =>
    obtain ⟨tag, tags, pattern⟩ := spec
    cases tag <;> cases tags <;> cases pattern <;> simp [HasFault, given] at h
    all_goals rfl
  | invalidPattern source fault =>
    obtain ⟨one, hpattern, hcompile⟩ := h
    rw [toFilterWith_of_pattern one hpattern, Filter.ofPatternWith, hcompile]
    rfl

/-- The filter that is described is made, whatever the rule is called. -/
theorem toFilterWith_of_describes (h : spec.Describes compile filter) (rule : String) :
    spec.toFilterWith compile rule = .ok filter := by
  obtain ⟨one, described⟩ := h
  rcases described with ⟨name, htag, rfl⟩ | ⟨names, htags, rfl⟩ |
    ⟨source, compiled, hpattern, hcompile, rfl⟩
  · obtain ⟨tag, tags, pattern⟩ := spec
    obtain rfl : tag = some name := htag
    cases tags <;> cases pattern <;> simp [given] at one
    rfl
  · obtain ⟨tag, tags, pattern⟩ := spec
    obtain rfl : tags = some names := htags
    cases tag <;> cases pattern <;> simp [given] at one
    rfl
  · rw [toFilterWith_of_pattern one hpattern, Filter.ofPatternWith, hcompile]
    rfl

/-- With one of the three given there is a filter, unless it is by a text that is no pattern. -/
theorem hasFault_or_describes (compile : PatternCompiler) : ∀ spec : FilterSpec,
    (∃ fault, spec.HasFault compile fault) ∨ ∃ filter, spec.Describes compile filter
  | ⟨none, none, none⟩ => .inl ⟨.nothingNamed, rfl⟩
  | ⟨some name, none, none⟩ => .inr ⟨.tag name, rfl, .inl ⟨name, rfl, rfl⟩⟩
  | ⟨none, some names, none⟩ => .inr ⟨.tags names, rfl, .inr (.inl ⟨names, rfl, rfl⟩)⟩
  | ⟨none, none, some source⟩ => by
    cases hcompile : compile source with
    | error fault => exact .inl ⟨.invalidPattern source fault, rfl, rfl, hcompile⟩
    | ok compiled =>
      exact .inr ⟨.pattern compiled, rfl, .inr (.inr ⟨source, compiled, rfl, hcompile, rfl⟩)⟩
  | ⟨some _, some _, none⟩ => .inl ⟨.severalNamed, Nat.lt_succ_self 1⟩
  | ⟨some _, none, some _⟩ => .inl ⟨.severalNamed, Nat.lt_succ_self 1⟩
  | ⟨none, some _, some _⟩ => .inl ⟨.severalNamed, Nat.lt_succ_self 1⟩
  | ⟨some _, some _, some _⟩ => .inl ⟨.severalNamed, Nat.lt_succ_of_lt (Nat.lt_succ_self 1)⟩

/-- The description of a filter has no fault. -/
theorem Describes.not_hasFault (h : spec.Describes compile filter) (fault : FilterFault) :
    ¬ spec.HasFault compile fault := by
  intro hfault
  have made := (toFilterWith_of_describes h "").symm.trans (toFilterWith_of_hasFault hfault "")
  cases made

end FilterSpec

/-! ## One rule

Whether a description gives a rule depends on its filter alone. A template is not looked at
before it is used. -/

namespace RuleSpec

/-- The rule that is described. -/
def Describes (compile : PatternCompiler) (spec : RuleSpec) (rule : Rule) : Prop :=
  ∃ filter, spec.filter.Describes compile filter ∧ rule = .ofTemplate filter spec.replacement

/-- The last description under this name describes the rule. -/
def LastDescribes (compile : PatternCompiler) (specs : List RuleSpec) (key : String)
    (rule : Rule) : Prop :=
  Since (fun _ spec => spec.name = key ∧ spec.Describes compile rule) (·.name ≠ key) specs

/-- One more description is the last under its own name, and changes nothing for the others. -/
theorem lastDescribes_concat {specs : List RuleSpec} {spec : RuleSpec} {key : String}
    {rule : Rule} :
    LastDescribes compile (specs ++ [spec]) key rule ↔
      (spec.name = key ∧ spec.Describes compile rule) ∨
        LastDescribes compile specs key rule ∧ spec.name ≠ key :=
  since_concat

/-- A description describes no two rules. -/
theorem Describes.unique {spec : RuleSpec} {rule other : Rule} (h : spec.Describes compile rule)
    (h' : spec.Describes compile other) : rule = other := by
  obtain ⟨filter, hfilter, rfl⟩ := h
  obtain ⟨filter', hfilter', rfl⟩ := h'
  have made := (FilterSpec.toFilterWith_of_describes hfilter spec.name).symm.trans
    (FilterSpec.toFilterWith_of_describes hfilter' spec.name)
  cases made
  rfl

/-- Where a rule is described, its filter has no fault. -/
theorem Describes.not_hasFault {spec : RuleSpec} {rule : Rule} (h : spec.Describes compile rule)
    (fault : FilterFault) : ¬ spec.filter.HasFault compile fault := by
  obtain ⟨filter, hfilter, -⟩ := h
  exact hfilter.not_hasFault fault

/-- A template is taken as it is, so that only the filter decides whether there is a rule. -/
theorem hasFault_or_describes (compile : PatternCompiler) (spec : RuleSpec) :
    (∃ fault, spec.filter.HasFault compile fault) ∨ ∃ rule, spec.Describes compile rule := by
  refine (spec.filter.hasFault_or_describes compile).imp_right ?_
  rintro ⟨filter, h⟩
  exact ⟨.ofTemplate filter spec.replacement, filter, h, rfl⟩

end RuleSpec

namespace RuleSetConfig

variable {spec : RuleSpec} {rule : Rule}

/-- A rule that is described is put under its name. -/
theorem addRule_of_describes (h : spec.Describes compile rule) (rules : RuleSet) :
    addRule compile rules spec = .ok (rules.insert spec.name rule) := by
  obtain ⟨filter, hfilter, rfl⟩ := h
  rw [addRule, FilterSpec.toFilterWith_of_describes hfilter]
  rfl

/-- A fault is the error whatever has been built, and the error names the rule. -/
theorem addRule_of_hasFault {fault : FilterFault} (h : spec.filter.HasFault compile fault)
    (rules : RuleSet) :
    addRule compile rules spec = .error (.invalidFilter (some spec.name) fault) := by
  rw [addRule, FilterSpec.toFilterWith_of_hasFault h]
  rfl

/-! ## One after the other

The induction adds a description at the end, as the loop does. A name that was described before
keeps its place and gets the new rule. -/

/-- A name that comes last is kept if it did not come before. -/
theorem eraseDups_concat (names : List String) (name : String) :
    (names ++ [name]).eraseDups =
      if name ∈ names then names.eraseDups else names.eraseDups ++ [name] := by
  rw [List.eraseDups_append, List.removeAll]
  split
  · rename_i taken
    simp [taken]
  · rename_i free
    simp [free, List.eraseDups_cons]

/-- The rules that are described, each name where it is first and with the rule that is described
last. -/
structure IsBuilt (compile : PatternCompiler) (specs : List RuleSpec) (rules : RuleSet) :
    Prop where
  names_eq : rules.names = (specs.map RuleSpec.name).eraseDups
  get?_iff : ∀ key rule,
    rules.get? key = some rule ↔ RuleSpec.LastDescribes compile specs key rule

/-- Nothing is built from no descriptions. -/
theorem isBuilt_nil : IsBuilt compile [] .empty where
  names_eq := rfl
  get?_iff _ _ := iff_of_false nofun not_since_nil

/-- **One more description** adds its rule, or puts it in the place of the one with its name. In the
latter case the name keeps its place, and with it its precedence. -/
theorem IsBuilt.concat {specs : List RuleSpec} {rules : RuleSet}
    (h : IsBuilt compile specs rules) (hspec : spec.Describes compile rule) :
    IsBuilt compile (specs ++ [spec]) (rules.insert spec.name rule) where
  names_eq := by
    rw [RuleSet.names_insert, List.map_append, List.map_singleton, eraseDups_concat, h.names_eq]
    simp only [List.mem_eraseDups]
  get?_iff key other := by
    rw [RuleSet.get?_insert, RuleSpec.lastDescribes_concat, ← h.get?_iff]
    by_cases hkey : key = spec.name
    · subst hkey
      have : spec.Describes compile other ↔ rule = other :=
        ⟨hspec.unique, fun heq => heq ▸ hspec⟩
      simp [this]
    · simp [hkey, Ne.symm hkey]

/-- **Descriptions without a fault** make a set. By induction from the last description, which
decides what its name stands for. -/
theorem exists_isBuilt (specs : List RuleSpec) :
    (∀ spec ∈ specs, ∃ rule, spec.Describes compile rule) →
      ∃ rules, specs.foldlM (addRule compile) .empty = .ok rules ∧
        IsBuilt compile specs rules := by
  induction specs using List.reverseRecOn with
  | nil => exact fun _ => ⟨.empty, rfl, isBuilt_nil⟩
  | append_singleton specs spec ih =>
    intro described
    obtain ⟨rules, hfold, built⟩ := ih fun earlier mem => described earlier (by simp [mem])
    obtain ⟨rule, hrule⟩ := described spec (by simp)
    refine ⟨rules.insert spec.name rule, ?_, built.concat hrule⟩
    rw [List.foldlM_append, hfold]
    show [spec].foldlM (addRule compile) rules = _
    rw [List.foldlM_cons, addRule_of_describes hrule]
    rfl

/-- The first description with a fault is one of this name, and this is its fault. -/
def FirstFault (compile : PatternCompiler) (specs : List RuleSpec) (name : String)
    (fault : FilterFault) : Prop :=
  ∃ before spec after, specs = before ++ spec :: after ∧ spec.name = name ∧
    spec.filter.HasFault compile fault ∧
      ∀ earlier ∈ before, ∀ fault, ¬ earlier.filter.HasFault compile fault

/-- **The first fault** is the error. The descriptions before it make a set, and those after it are
not looked at. -/
theorem foldlM_of_firstFault {specs : List RuleSpec} {name : String} {fault : FilterFault}
    (h : FirstFault compile specs name fault) :
    specs.foldlM (addRule compile) .empty = .error (.invalidFilter (some name) fault) := by
  obtain ⟨before, spec, after, rfl, rfl, hfault, faultless⟩ := h
  obtain ⟨rules, hfold, -⟩ := exists_isBuilt before fun earlier mem =>
    (earlier.hasFault_or_describes compile).resolve_left
      (not_exists.2 (faultless earlier mem))
  rw [List.foldlM_append, hfold]
  show (spec :: after).foldlM (addRule compile) rules = _
  rw [List.foldlM_cons, addRule_of_hasFault hfault]
  rfl

/-- If not all descriptions describe a rule, there is a first one that does not. -/
theorem firstFault_or_describes (compile : PatternCompiler) (specs : List RuleSpec) :
    (∃ name fault, FirstFault compile specs name fault) ∨
      ∀ spec ∈ specs, ∃ rule, spec.Describes compile rule := by
  induction specs with
  | nil => exact .inr nofun
  | cons spec specs ih =>
    rcases spec.hasFault_or_describes compile with ⟨fault, hfault⟩ | ⟨rule, hrule⟩
    · exact .inl ⟨spec.name, fault, [], spec, specs, rfl, rfl, hfault, nofun⟩
    · rcases ih with ⟨name, fault, before, first, after, rfl, hname, hfault, faultless⟩ | others
      · refine .inl ⟨name, fault, spec :: before, first, after, rfl, hname, hfault, ?_⟩
        exact List.forall_mem_cons.2 ⟨hrule.not_hasFault, faultless⟩
      · exact .inr (List.forall_mem_cons.2 ⟨⟨rule, hrule⟩, others⟩)

/-! ## The whole set

If there is a fault the loop ends with the first one; otherwise it runs through, and the bundled
rules are offered for the names that are still free. -/

/-- **Descriptions that all describe a rule** make a set: with the rules that are described, and
after them the bundled ones whose names are not described, if those are asked for. -/
theorem exists_buildRulesWith_eq_ok (config : RuleSetConfig)
    (described : ∀ spec ∈ config.rules, ∃ rule, spec.Describes compile rule) :
    ∃ rules, config.buildRulesWith compile = .ok rules ∧
      rules.names = (config.rules.map RuleSpec.name).eraseDups ++
        (if config.includeStandard then
          (Rule.standard.map Prod.fst).filter (· ∉ config.rules.map RuleSpec.name) else []) ∧
      ∀ key rule, rules.get? key = some rule ↔
        RuleSpec.LastDescribes compile config.rules key rule ∨
          config.includeStandard = true ∧ key ∉ config.rules.map RuleSpec.name ∧
            (key, rule) ∈ Rule.standard := by
  obtain ⟨built, hfold, hbuilt⟩ := exists_isBuilt config.rules described
  -- a name is taken when something is described under it
  have taken_iff : ∀ key, key ∈ built.names ↔ key ∈ config.rules.map RuleSpec.name := fun key => by
    rw [hbuilt.names_eq, List.mem_eraseDups]
  have hresult : config.buildRulesWith compile =
      .ok (if config.includeStandard then built.extend .standard else built) := by
    rw [buildRulesWith, hfold]
    rfl
  refine ⟨_, hresult, ?_⟩
  cases config.includeStandard with
  | false =>
    refine ⟨hbuilt.names_eq.trans (List.append_nil _).symm, fun key rule => ?_⟩
    refine (hbuilt.get?_iff key rule).trans (or_iff_left fun h => ?_).symm
    exact Bool.noConfusion h.1
  | true =>
    -- the bundled rules come after those, as far as their names are free
    have nodup := RuleSet.History.nodup_names_standard
    refine ⟨?_, fun key rule => ?_⟩
    · show (built.extend .standard).names = _
      rw [RuleSet.names_extend nodup, hbuilt.names_eq]
      simp only [List.mem_eraseDups]
      rfl
    · show (built.extend .standard).get? key = some rule ↔ _
      rw [RuleSet.get?_extend nodup, Option.or_eq_some_iff, hbuilt.get?_iff,
        RuleSet.get?_eq_none_iff, taken_iff, RuleSet.get?_eq_some_iff nodup,
        RuleSet.standard_entries]
      simp only [true_and]

/-- The first fault is the error whether or not the bundled rules are asked for. -/
theorem buildRulesWith_of_firstFault {config : RuleSetConfig} {name : String} {fault : FilterFault}
    (h : FirstFault compile config.rules name fault) :
    config.buildRulesWith compile = .error (.invalidFilter (some name) fault) := by
  rw [buildRulesWith, foldlM_of_firstFault h]
  rfl

/-- There is no other error than the first fault. -/
theorem buildRulesWith_eq_error_iff {config : RuleSetConfig} {e : Error} :
    config.buildRulesWith compile = .error e ↔
      ∃ name fault, FirstFault compile config.rules name fault ∧
        e = .invalidFilter (some name) fault := by
  constructor
  · intro herror
    rcases firstFault_or_describes compile config.rules with ⟨name, fault, hfirst⟩ | described
    · have := herror.symm.trans (buildRulesWith_of_firstFault hfirst)
      exact ⟨name, fault, hfirst, Except.error.inj this⟩
    · obtain ⟨rules, hok, -⟩ := config.exists_buildRulesWith_eq_ok described
      cases herror.symm.trans hok
  · rintro ⟨name, fault, hfirst, rfl⟩
    exact buildRulesWith_of_firstFault hfirst

/-- **Rule sets are built completely or not at all**, whichever texts compile to a pattern. A
document describes no set just when the filter of a rule has a fault, and the error is the first
fault with the name of its rule. Otherwise the names are those that are described, each where it is
first, and then the bundled ones that are not among them, if those are asked for. Each name stands
for what is described last under it, or else for the bundled rule. -/
theorem buildRules_complete_or_not (compile : PatternCompiler) (config : RuleSetConfig) :
    ((∃ e, config.buildRulesWith compile = .error e) ↔
      ∃ spec ∈ config.rules, ∃ fault, spec.filter.HasFault compile fault) ∧
    (∀ e, config.buildRulesWith compile = .error e ↔
      ∃ name fault, FirstFault compile config.rules name fault ∧
        e = .invalidFilter (some name) fault) ∧
    ((∀ spec ∈ config.rules, ∀ fault, ¬ spec.filter.HasFault compile fault) →
      ∃ rules, config.buildRulesWith compile = .ok rules ∧
        rules.names = (config.rules.map RuleSpec.name).eraseDups ++
          (if config.includeStandard then
            (Rule.standard.map Prod.fst).filter (· ∉ config.rules.map RuleSpec.name) else []) ∧
        ∀ key rule, rules.get? key = some rule ↔
          RuleSpec.LastDescribes compile config.rules key rule ∨
            config.includeStandard = true ∧ key ∉ config.rules.map RuleSpec.name ∧
              (key, rule) ∈ Rule.standard) := by
  refine ⟨⟨?_, ?_⟩, fun _ => buildRulesWith_eq_error_iff, fun faultless => ?_⟩
  · rintro ⟨e, herror⟩
    obtain ⟨name, fault, ⟨before, spec, after, hrules, -, hfault, -⟩, -⟩ :=
      buildRulesWith_eq_error_iff.1 herror
    exact ⟨spec, by simp [hrules], fault, hfault⟩
  -- some fault is the first; if there were none, this description would describe a rule
  · rintro ⟨spec, mem, fault, hfault⟩
    rcases firstFault_or_describes compile config.rules with ⟨name, first, hfirst⟩ | described
    · exact ⟨_, buildRulesWith_of_firstFault hfirst⟩
    · obtain ⟨rule, hrule⟩ := described spec mem
      exact absurd hfault (hrule.not_hasFault fault)
  · exact config.exists_buildRulesWith_eq_ok fun spec mem =>
      (spec.hasFault_or_describes compile).resolve_left (not_exists.2 (faultless spec mem))

end RuleSetConfig

end Tagdown
