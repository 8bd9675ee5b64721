import Mathlib.Data.List.Find
import Mathlib.Data.List.Nodup
import Tagdown.Rule.RuleSetLemmas

/-!
# Precedence among rules

In a rule set where each name stands once, the names and what they stand for say which rule is
for a node: the first name in their order whose rule accepts it (`RuleSet.find?_eq_some_iff`).

A set is extended by the rules of another whose names are not taken (`RuleSet.entries_extend`).
They come after its own, so what it had a rule for keeps that rule (`RuleSet.find?_extend`), and
it makes no difference in which order extensions are put together, or whether one is made twice
(`RuleSet.extend_assoc`, `RuleSet.extend_extend_self`).
-/

namespace Tagdown.RuleSet

theorem eq_of_entries_eq {rules other : RuleSet} (h : rules.entries = other.entries) :
    rules = other :=
  congrArg mk h

/-! ## What a name stands for

In a set in which each name stands once, to look a name up is to find its one entry, and to find
the rule for a node is to go through the names in their order. -/

/-- There is a rule under each name, and under nothing else. -/
theorem get?_eq_none_iff {rules : RuleSet} {key : String} :
    rules.get? key = none ↔ key ∉ rules.names := by
  rw [← isSome_get?, Option.not_isSome_iff_eq_none]

/-- A rule that is offered counts only if its name is free. -/
theorem get?_insertIfNew (rules : RuleSet) (key : String) (rule : Rule) (other : String) :
    (rules.insertIfNew key rule).get? other =
      if other = key ∧ key ∉ rules.names then some rule else rules.get? other := by
  by_cases taken : key ∈ rules.names
  · simp [insertIfNew, contains_iff, taken]
  · have same : rules.insertIfNew key rule = rules.insert key rule := by
      simp [insertIfNew, insert, contains_iff, taken]
    rw [same, get?_insert]
    simp [taken]

section Nodup

variable {rules : RuleSet} (nodup : rules.names.Nodup)
include nodup

/-- Where each name stands once, every rule is the one that its name stands for. -/
theorem get?_eq_some_iff {key : String} {rule : Rule} :
    rules.get? key = some rule ↔ (key, rule) ∈ rules.entries := by
  rw [get?, Option.map_eq_some_iff]
  constructor
  · rintro ⟨⟨name, rule⟩, found, rfl⟩
    have hname : name = key := by simpa using List.find?_some found
    subst hname
    exact List.mem_of_find?_eq_some found
  · intro mem
    have named : (rules.entries.find? (·.1 == key)).isSome = true :=
      List.find?_isSome.2 ⟨(key, rule), mem, beq_self_eq_true key⟩
    obtain ⟨entry, found⟩ := Option.isSome_iff_exists.1 named
    have hname : entry.1 = key := by simpa using List.find?_some found
    have same : entry = (key, rule) :=
      List.inj_on_of_nodup_map nodup (List.mem_of_find?_eq_some found) mem hname
    exact ⟨entry, found, congrArg Prod.snd same⟩

/-- **Precedence**: the rule for a node is the one under the first name whose rule accepts it. Names
are not repeated in a rule set, and so there is one rule to each of them. -/
theorem find?_eq_some_iff {node : NodeRef} {options : Options} {key : String} {rule : Rule} :
    rules.find? node options = some (key, rule) ↔
      rules.get? key = some rule ∧ rule.accepts node options = true ∧
        ∃ before after, rules.names = before ++ key :: after ∧
          ∀ earlier ∈ before, ∀ other, rules.get? earlier = some other →
            other.accepts node options = false := by
  rw [find?, List.find?_eq_some_iff_append, get?_eq_some_iff nodup]
  constructor
  · rintro ⟨accepted, before, after, hentries, rejected⟩
    refine ⟨by simp [hentries], accepted, before.map Prod.fst, after.map Prod.fst,
      by simp [names, hentries], fun earlier mem other hother => ?_⟩
    obtain ⟨⟨name, first⟩, hfirst, rfl⟩ := List.mem_map.1 mem
    -- a name that comes earlier stands for the rule beside it, since names are not repeated
    have here : rules.get? name = some first :=
      (get?_eq_some_iff nodup).2 (by simp [hentries, hfirst])
    obtain rfl : first = other := Option.some_inj.1 (here.symm.trans hother)
    simpa using rejected (name, first) hfirst
  · rintro ⟨mem, accepted, before, after, hnames, rejected⟩
    obtain ⟨first, rest, hentries, rfl, hrest⟩ := List.map_eq_append_iff.1 hnames
    obtain ⟨entry, last, rfl, hkey, rfl⟩ := List.map_eq_cons_iff.1 hrest
    -- the entry under this name is the one that was found
    have here : entry = (key, rule) :=
      List.inj_on_of_nodup_map nodup (by simp [hentries]) mem hkey
    refine ⟨accepted, first, last, here ▸ hentries, fun earlier hearlier => ?_⟩
    have := rejected earlier.1 (List.mem_map_of_mem hearlier) earlier.2
      ((get?_eq_some_iff nodup).2 (by simp [hentries, hearlier]))
    simpa using this

end Nodup

/-! ## Extensions

An extension goes through the other set and adds what is missing. Since the names of that set are
different from each other, what is added is not affected by what was added just before. -/

/-- The rules whose names are not among the given ones. -/
def without (rules : RuleSet) (taken : List String) : RuleSet :=
  ⟨rules.entries.filter (·.1 ∉ taken)⟩

@[simp] theorem names_without (rules : RuleSet) (taken : List String) :
    (rules.without taken).names = rules.names.filter (· ∉ taken) := by
  rw [without, names, names, List.filter_map]
  rfl

/-- Of rules that are added where their names are free, each under a name of its own, those are
added whose names were free before. -/
theorem entries_foldl_insertIfNew (entries : List (String × Rule)) :
    ∀ rules : RuleSet, (entries.map Prod.fst).Nodup →
      (entries.foldl (fun rules (key, rule) => rules.insertIfNew key rule) rules).entries =
        rules.entries ++ entries.filter (·.1 ∉ rules.names) := by
  induction entries with
  | nil =>
    intro rules _
    exact (List.append_nil _).symm
  | cons entry entries ih =>
    intro rules nodup
    obtain ⟨key, rule⟩ := entry
    obtain ⟨hnew, nodup⟩ := List.nodup_cons.1 nodup
    rw [List.foldl_cons, ih _ nodup, names_insertIfNew]
    simp only [insertIfNew, contains_iff]
    split
    · rename_i taken
      rw [List.filter_cons_of_neg (by simpa using taken)]
    · rename_i free
      -- the name that is taken now is none of those to come
      have others : entries.filter (·.1 ∉ rules.names ++ [key]) =
          entries.filter (·.1 ∉ rules.names) := by
        refine List.filter_congr fun other hother => ?_
        have : other.1 ≠ key := fun h => hnew (List.mem_map.2 ⟨other, hother, h⟩)
        simp [this]
      rw [List.filter_cons_of_pos (by simpa using free), others, List.append_assoc]
      rfl

section Extend

variable {rules other : RuleSet} (nodup : other.names.Nodup)
include nodup

/-- A set is extended by the rules whose names it lacks, in their order. -/
theorem entries_extend :
    (rules.extend other).entries = rules.entries ++ (other.without rules.names).entries :=
  entries_foldl_insertIfNew other.entries rules nodup

/-- The names of the other set come after those of this one, as far as they are new. -/
theorem names_extend :
    (rules.extend other).names = rules.names ++ other.names.filter (· ∉ rules.names) := by
  rw [← names_without, names, entries_extend nodup, List.map_append]
  rfl

theorem mem_names_extend {key : String} :
    key ∈ (rules.extend other).names ↔ key ∈ rules.names ∨ key ∈ other.names := by
  rw [names_extend nodup, List.mem_append, List.mem_filter, decide_eq_true_iff]
  tauto

/-- So no name comes twice. -/
theorem nodup_names_extend (h : rules.names.Nodup) : (rules.extend other).names.Nodup := by
  rw [names_extend nodup]
  refine h.append (nodup.filter _) fun key taken mem => ?_
  exact of_decide_eq_true (List.mem_filter.1 mem).2 taken

/-- What a set has a rule under stays under that name, and what it lacks is taken over. -/
theorem get?_extend (key : String) :
    (rules.extend other).get? key = (rules.get? key).or (other.get? key) := by
  by_cases taken : key ∈ rules.names
  · obtain ⟨rule, here⟩ := Option.isSome_iff_exists.1 (isSome_get?.2 taken)
    rw [here, Option.some_or, ← here, get?, get?, entries_extend nodup, List.find?_append]
    obtain ⟨entry, found, -⟩ := Option.map_eq_some_iff.1 here
    rw [found, Option.some_or]
  · have lookup : (other.without rules.names).entries.find? (·.1 == key) =
        other.entries.find? (·.1 == key) := by
      rw [without, List.find?_filter]
      refine List.find?_congr fun entry _ => ?_
      by_cases h : entry.1 = key
      · simp [h, taken]
      · simp [h]
    rw [get?, get?, get?, entries_extend nodup, List.find?_append, lookup, Option.map_or]

/-- **Custom rules come first**: an extended set goes by its own rule for a node, if it has one, and
otherwise by the rules that it was extended by. Of the latter, those whose names it has itself are
left out. -/
theorem find?_extend (node : NodeRef) (options : Options) :
    (rules.extend other).find? node options =
      (rules.find? node options).or ((other.without rules.names).find? node options) := by
  rw [find?, entries_extend nodup, List.find?_append]
  rfl

/-- A set is not changed by rules whose names are all taken. -/
theorem extend_eq_self (taken : other.names ⊆ rules.names) : rules.extend other = rules := by
  refine eq_of_entries_eq ?_
  have none : (other.without rules.names).entries = [] :=
    List.filter_eq_nil_iff.2 fun entry mem =>
      not_not_intro (taken (List.mem_map_of_mem mem)) ∘ of_decide_eq_true
  rw [entries_extend nodup, none, List.append_nil]

/-- To extend by the same rules again adds nothing, since all their names are taken. -/
theorem extend_extend_self : (rules.extend other).extend other = rules.extend other :=
  extend_eq_self nodup fun _ mem => (mem_names_extend nodup).2 (.inr mem)

/-- It does not matter in which order sets are put together, as long as the sets stand in the same
order. -/
theorem extend_assoc {third : RuleSet} (nodup' : third.names.Nodup) :
    (rules.extend other).extend third = rules.extend (other.extend third) := by
  refine eq_of_entries_eq ?_
  have last : third.without (rules.extend other).names =
      (third.without other.names).without rules.names := by
    refine eq_of_entries_eq ?_
    simp only [without, List.filter_filter, mem_names_extend nodup, not_or, Bool.decide_and]
  have middle : ((other.extend third).without rules.names).entries =
      (other.without rules.names).entries ++
        ((third.without other.names).without rules.names).entries := by
    rw [without, entries_extend nodup', List.filter_append]
    rfl
  rw [entries_extend nodup', entries_extend nodup, entries_extend (nodup_names_extend nodup' nodup),
    last, middle, List.append_assoc]

end Extend

end Tagdown.RuleSet
