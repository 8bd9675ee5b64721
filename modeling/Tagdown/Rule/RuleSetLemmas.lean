import Tagdown.Rule.RuleSet

/-!
# A rule set seen through its names and its rules

What the operations on a rule set do, said through `names` and `get?`: `insert` keeps the place
of a name that is taken and puts a new one last, `erase` keeps the order of the others, and
neither changes the rule under another name.
-/

namespace Tagdown.RuleSet

theorem contains_iff {rules : RuleSet} {key : String} :
    rules.contains key = true ↔ key ∈ rules.names := by
  simp [contains, names]

/-- A new name comes last, and a name that is there keeps its place. -/
theorem names_insert (rules : RuleSet) (key : String) (rule : Rule) :
    (rules.insert key rule).names =
      if key ∈ rules.names then rules.names else rules.names ++ [key] := by
  simp only [insert, contains_iff]
  split
  · simp only [names, List.map_map]
    refine List.map_congr_left fun entry _ => ?_
    simp only [Function.comp_apply]
    split
    · rename_i h
      exact (beq_iff_eq.1 h).symm
    · rfl
  · simp [names]

/-- A name is taken out, and the others stay in their order. -/
@[simp] theorem names_erase (rules : RuleSet) (key : String) :
    (rules.erase key).names = rules.names.filter (· != key) := by
  simp only [erase, names, List.filter_map]
  rfl

/-- An offer changes the names in the same way as an addition does. -/
theorem names_insertIfNew (rules : RuleSet) (key : String) (rule : Rule) :
    (rules.insertIfNew key rule).names =
      if key ∈ rules.names then rules.names else rules.names ++ [key] := by
  simp only [insertIfNew, contains_iff]
  split
  · rfl
  · simp [names]

/-- A name stands for a rule when it is among the names. -/
theorem isSome_get? {rules : RuleSet} {key : String} :
    (rules.get? key).isSome = true ↔ key ∈ rules.names := by
  simp [get?, names]

/-- A name that is looked up in a filtered list is found where it was, if the filter keeps it. -/
theorem find?_filter_ne (entries : List (String × Rule)) {key other : String} (h : other ≠ key) :
    (entries.filter (·.1 != key)).find? (·.1 == other) = entries.find? (·.1 == other) := by
  induction entries with
  | nil => rfl
  | cons entry entries ih =>
    by_cases hk : entry.1 = key
    · have : entry.1 ≠ other := fun ho => h (ho.symm.trans hk)
      simp [hk, ih, Ne.symm h]
    · by_cases ho : entry.1 = other <;> simp [hk, ho, ih, h]

/-- A name other than the one that is given a new rule is found where it was. -/
theorem find?_map_replace (entries : List (String × Rule)) (rule : Rule) {key other : String}
    (h : other ≠ key) :
    (entries.map fun entry => if entry.1 == key then (key, rule) else entry).find?
      (·.1 == other) = entries.find? (·.1 == other) := by
  induction entries with
  | nil => rfl
  | cons entry entries ih =>
    rw [List.map_cons, List.find?_cons, List.find?_cons, ih]
    by_cases hk : entry.1 = key
    · simp [hk, beq_false_of_ne (Ne.symm h)]
    · simp [hk]

/-- A name that is taken and is given a new rule stands for that rule. -/
theorem find?_map_replace_self (entries : List (String × Rule)) (key : String) (rule : Rule)
    (taken : key ∈ entries.map Prod.fst) :
    (entries.map fun entry => if entry.1 == key then (key, rule) else entry).find?
      (·.1 == key) = some (key, rule) := by
  induction entries with
  | nil => simp at taken
  | cons entry entries ih =>
    by_cases hk : entry.1 = key
    · simp [hk]
    · have : key ∈ entries.map Prod.fst := by
        rcases List.mem_cons.1 taken with h | h
        · exact absurd h.symm hk
        · exact h
      rw [List.map_cons, List.find?_cons, ih this]
      simp [beq_false_of_ne hk]

/-- The last rule that was added under a name is the one that counts. -/
theorem get?_insert (rules : RuleSet) (key : String) (rule : Rule) (other : String) :
    (rules.insert key rule).get? other = if other = key then some rule else rules.get? other := by
  by_cases taken : key ∈ rules.names
  · simp only [get?, insert, contains_iff, if_pos taken]
    split
    · rename_i h
      subst h
      rw [find?_map_replace_self _ _ _ taken]
      rfl
    · rename_i h
      rw [find?_map_replace _ _ h]
  · have free : rules.entries.find? (·.1 == key) = none := by
      have := mt isSome_get?.1 taken
      simp only [get?, Option.isSome_map] at this
      simpa only [Bool.not_eq_true, Option.isSome_eq_false_iff, Option.isNone_iff_eq_none]
        using this
    simp only [get?, insert, contains_iff, if_neg taken, List.find?_append]
    split
    · rename_i h
      subst h
      simp [free]
    · rename_i h
      simp [Ne.symm h]

/-- Of the other names nothing is forgotten. -/
theorem get?_erase (rules : RuleSet) (key other : String) :
    (rules.erase key).get? other = if other = key then none else rules.get? other := by
  simp only [get?, erase]
  split
  · rename_i h
    subst h
    rw [Option.map_eq_none_iff, List.find?_eq_none]
    intro entry mem
    have := (List.mem_filter.1 mem).2
    simpa using this
  · rename_i h
    rw [find?_filter_ne _ h]

end Tagdown.RuleSet
