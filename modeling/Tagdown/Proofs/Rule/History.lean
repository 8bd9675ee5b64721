import Mathlib.Data.List.Induction
import Mathlib.Tactic.Tauto
import Tagdown.Proofs.Rule.Precedence

/-!
# Histories of a rule set

A rule set starts out empty or with the bundled rules. Rules are added to it and removed from it,
and it is extended by other sets, each with a history of its own (`RuleSet.History`). What has
happened to the single names is the log of the history. A rule of a set that it was extended by
stands in the log as an offer, since the name may be taken.

The log alone says what the set is like (`RuleSet.History.Describes`): which names it has, in
which order they stand, and which rule each stands for. One event of the log keeps this
(`RuleSet.History.Describes.apply`), so it is so after any history
(`RuleSet.History.describes_result`). The sets that have a history are all those in which no name
stands twice (`RuleSet.History.exists_result_eq_iff`).
-/

namespace Tagdown

/-! ## What has been so since

A log is read from its end: what was the case at some event and has not been undone by a later
one. -/

section Since

variable {α : Type} {P : List α → α → Prop} {Q : α → Prop}

/-- Some element of the list is a `P`, given those before it, and all since are a `Q`. -/
def Since (P : List α → α → Prop) (Q : α → Prop) (l : List α) : Prop :=
  ∃ before x after, l = before ++ x :: after ∧ P before x ∧ ∀ y ∈ after, Q y

theorem not_since_nil : ¬ Since P Q [] := by
  rintro ⟨before, x, after, h, -⟩
  simp at h

/-- The last element is a `P` itself, or it is one of those since then. -/
theorem since_concat {l : List α} {last : α} :
    Since P Q (l ++ [last]) ↔ P l last ∨ Since P Q l ∧ Q last := by
  constructor
  · rintro ⟨before, x, after, h, hP, hQ⟩
    rcases List.eq_nil_or_concat after with rfl | ⟨after, y, rfl⟩
    · obtain ⟨rfl, same⟩ := List.append_inj' h rfl
      obtain rfl := List.singleton_inj.1 same
      exact .inl hP
    · have split : l ++ [last] = (before ++ x :: after) ++ [y] := by simpa using h
      obtain ⟨rfl, same⟩ := List.append_inj' split rfl
      obtain rfl := List.singleton_inj.1 same
      exact .inr ⟨⟨before, x, after, rfl, hP, fun z mem => hQ z (by simp [mem])⟩,
        hQ last (by simp)⟩
  · rintro (hP | ⟨⟨before, x, after, rfl, hP, hQ⟩, hlast⟩)
    · exact ⟨l, last, [], rfl, hP, by simp⟩
    · refine ⟨before, x, after ++ [last], by simp, hP, fun y mem => ?_⟩
      rcases List.mem_append.1 mem with mem | mem
      · exact hQ y mem
      · exact List.mem_singleton.1 mem ▸ hlast

end Since

/-! ## Calls and what they do to single names

A call may touch many names. It is taken apart into events that touch one each, and an extension
becomes an offer for each rule of the other set, in its order. -/

namespace RuleSet

/-- The calls that have made a rule set. -/
inductive History where
  | empty
  | standard
  | add (earlier : History) (key : String) (rule : Rule)
  | remove (earlier : History) (key : String)
  | extend (earlier other : History)

namespace History

/-- The rule set that the calls have made. -/
def result : History → RuleSet
  | empty => .empty
  | standard => .standard
  | add earlier key rule => earlier.result.insert key rule
  | remove earlier key => earlier.result.erase key
  | extend earlier other => earlier.result.extend other.result

/-- What happens to one name. -/
inductive Event where
  | add (key : String) (rule : Rule)
  /-- a rule that is added unless its name is taken -/
  | offer (key : String) (rule : Rule)
  | remove (key : String)

namespace Event

/-- After the event the name is there. -/
def Brings (key : String) : Event → Prop
  | add name _ => name = key
  | offer name _ => name = key
  | remove _ => False

/-- The rule set after the event. -/
def apply (rules : RuleSet) : Event → RuleSet
  | add key rule => rules.insert key rule
  | offer key rule => rules.insertIfNew key rule
  | remove key => rules.erase key

theorem ne_remove_of_brings {e : Event} {key : String} (h : e.Brings key) : e ≠ remove key := by
  rintro rfl
  exact h

/-- An event that brings one name does nothing to the others. -/
theorem not_brings_of_ne {e : Event} {key other : String} (h : e.Brings key) (hne : other ≠ key) :
    ¬ e.Brings other ∧ e ≠ remove other := by
  cases e with
  | add name _ => exact ⟨fun h' => hne (h'.symm.trans h), Event.noConfusion⟩
  | offer name _ => exact ⟨fun h' => hne (h'.symm.trans h), Event.noConfusion⟩
  | remove _ => exact h.elim

/-- Either way of bringing a name puts it last, if it was not there. -/
theorem names_apply_of_brings {e : Event} {key : String} (h : e.Brings key) (rules : RuleSet) :
    (e.apply rules).names = if key ∈ rules.names then rules.names else rules.names ++ [key] := by
  cases e with
  | add name rule =>
    obtain rfl : name = key := h
    exact names_insert rules name rule
  | offer name rule =>
    obtain rfl : name = key := h
    exact names_insertIfNew rules name rule
  | remove name => exact h.elim

end Event

/-- What has happened to names, one after the other. A set is extended by the rules of the other
one in the order in which they stand there. -/
def log : History → List Event
  | empty => []
  | standard => Rule.standard.map fun (key, rule) => .add key rule
  | add earlier key rule => earlier.log ++ [.add key rule]
  | remove earlier key => earlier.log ++ [.remove key]
  | extend earlier other =>
    earlier.log ++ other.result.entries.map fun (key, rule) => .offer key rule

/-- The events of the log, one after the other, make what the calls make. -/
theorem result_eq_foldl (h : History) : h.result = h.log.foldl Event.apply .empty := by
  induction h with
  | empty => rfl
  | standard =>
    rw [log, List.foldl_map]
    rfl
  | add earlier key rule ih =>
    rw [log, List.foldl_concat, ← ih]
    rfl
  | remove earlier key ih =>
    rw [log, List.foldl_concat, ← ih]
    rfl
  | extend earlier other ih _ =>
    rw [log, List.foldl_append, ← ih, List.foldl_map]
    rfl

/-! ## Reading a log

Each of these is a statement on the log alone. They are made to be read from the end, since a
further event is what the induction adds. -/

/-- The name was brought, and it was not removed since. -/
def Present (log : List Event) (key : String) : Prop :=
  Since (fun _ event => event.Brings key) (· ≠ .remove key) log

/-- At this place in the log the name was brought while it was missing, and it was not removed
since: this is where it was first added since its last removal. -/
def FirstAdded (log : List Event) (key : String) (place : Nat) : Prop :=
  Since (fun before event => before.length = place ∧ event.Brings key ∧ ¬ Present before key)
    (· ≠ .remove key) log

/-- The rule was the last one to be added under this name, and the name was not removed since.
An offer counts as far as the name was missing. -/
def LatestAdd (log : List Event) (key : String) (rule : Rule) : Prop :=
  Since (fun before event =>
      event = .add key rule ∨ event = .offer key rule ∧ ¬ Present before key)
    (fun event => event ≠ .remove key ∧ ∀ other, event ≠ .add key other) log

variable {log : List Event} {e : Event} {key : String} {place : Nat} {rule : Rule}

/-- A name is there if the last event has brought it, or if it was there and has not been
removed. -/
theorem present_concat :
    Present (log ++ [e]) key ↔ e.Brings key ∨ Present log key ∧ e ≠ .remove key :=
  since_concat

/-- The last event is the first to add its name if the name was not there. -/
theorem firstAdded_concat :
    FirstAdded (log ++ [e]) key place ↔
      (log.length = place ∧ e.Brings key ∧ ¬ Present log key) ∨
        FirstAdded log key place ∧ e ≠ .remove key :=
  since_concat

/-- What was added last under a name, after one more event. -/
theorem latestAdd_concat :
    LatestAdd (log ++ [e]) key rule ↔
      (e = .add key rule ∨ e = .offer key rule ∧ ¬ Present log key) ∨
        LatestAdd log key rule ∧ e ≠ .remove key ∧ ∀ other, e ≠ .add key other :=
  since_concat

/-- A name that is there was first added somewhere. -/
theorem present_iff_exists_firstAdded : Present log key ↔ ∃ place, FirstAdded log key place := by
  induction log using List.reverseRecOn with
  | nil => exact iff_of_false not_since_nil fun ⟨_, h⟩ => not_since_nil h
  | append_singleton log e ih =>
    have kept : e.Brings key → e ≠ .remove key := Event.ne_remove_of_brings
    have here : ∃ place, log.length = place := ⟨_, rfl⟩
    simp only [present_concat, firstAdded_concat, exists_or, exists_and_right, ← ih]
    tauto

/-- A name that was added and not removed since is there. -/
theorem FirstAdded.present (h : FirstAdded log key place) : Present log key :=
  present_iff_exists_firstAdded.2 ⟨place, h⟩

theorem FirstAdded.lt_length (h : FirstAdded log key place) : place < log.length := by
  obtain ⟨before, event, after, rfl, ⟨rfl, -⟩, -⟩ := h
  simp

/-- A name that was there was first added before the last event. -/
theorem FirstAdded.of_concat (h : FirstAdded (log ++ [e]) key place) (there : Present log key) :
    FirstAdded log key place := by
  rcases firstAdded_concat.1 h with ⟨-, -, missing⟩ | ⟨h, -⟩
  · exact absurd there missing
  · exact h

/-- A name that was not there was first added by the last event. -/
theorem FirstAdded.eq_length (h : FirstAdded (log ++ [e]) key place)
    (missing : ¬ Present log key) : place = log.length := by
  rcases firstAdded_concat.1 h with ⟨rfl, -⟩ | ⟨h, -⟩
  · rfl
  · exact absurd h.present missing

/-! ## What the log says about the set

The invariant has two parts: which names there are and in which order, and what each of them
stands for. Every event keeps both. -/

/-- The names that are there, each once, in the order in which they were first added. -/
structure Lists (log : List Event) (names : List String) : Prop where
  nodup : names.Nodup
  mem_iff : ∀ key, key ∈ names ↔ Present log key
  ordered : names.Pairwise fun earlier later =>
    ∀ m n, FirstAdded log earlier m → FirstAdded log later n → m < n

/-- The rule set has the names that the log lists, and each stands for the rule that was added
last. -/
structure Describes (log : List Event) (rules : RuleSet) : Prop where
  lists : Lists log rules.names
  get?_iff : ∀ key rule, rules.get? key = some rule ↔ LatestAdd log key rule

namespace Lists

variable {names : List String} (h : Lists log names)
include h

/-- Names that were listed and are still listed keep their order. -/
theorem ordered_of_sublist {kept : List String} (sub : kept.Sublist names) (e : Event) :
    kept.Pairwise fun earlier later => ∀ m n, FirstAdded (log ++ [e]) earlier m →
      FirstAdded (log ++ [e]) later n → m < n := by
  refine (h.ordered.sublist sub).imp_of_mem fun {first second} hfirst hsecond less m n hm hn => ?_
  exact less m n (hm.of_concat ((h.mem_iff first).1 (sub.subset hfirst)))
    (hn.of_concat ((h.mem_iff second).1 (sub.subset hsecond)))

/-- A name that is brought stays where it is, or else comes last. -/
theorem brought {e : Event} (he : e.Brings key) :
    Lists (log ++ [e]) (if key ∈ names then names else names ++ [key]) := by
  have mem_iff : ∀ other, Present (log ++ [e]) other ↔ other = key ∨ other ∈ names := by
    intro other
    rw [present_concat, h.mem_iff]
    by_cases heq : other = key
    · subst heq
      simp [he]
    · simp [heq, Event.not_brings_of_ne he heq]
  split
  · rename_i taken
    refine ⟨h.nodup, fun other => ?_, h.ordered_of_sublist (List.Sublist.refl _) e⟩
    rw [mem_iff, or_iff_right_of_imp fun heq => heq ▸ taken]
  · rename_i free
    refine ⟨List.concat_eq_append ▸ h.nodup.concat free, fun other => ?_, ?_⟩
    · rw [mem_iff, List.mem_append, List.mem_singleton, or_comm]
    · refine List.pairwise_append.2 ⟨h.ordered_of_sublist (List.Sublist.refl _) e,
        List.pairwise_singleton _ _, fun earlier hearlier last hlast m n hm hn => ?_⟩
      obtain rfl := List.mem_singleton.1 hlast
      rw [hn.eq_length (mt (h.mem_iff last).2 free)]
      exact (hm.of_concat ((h.mem_iff earlier).1 hearlier)).lt_length

/-- The others keep their order when a name is removed. -/
theorem removed : Lists (log ++ [.remove key]) (names.filter (· != key)) := by
  refine ⟨h.nodup.filter _, fun other => ?_, h.ordered_of_sublist List.filter_sublist _⟩
  have ne_iff : (.remove key : Event) ≠ .remove other ↔ other ≠ key := by
    rw [ne_eq, Event.remove.injEq, eq_comm]
  rw [List.mem_filter, present_concat, h.mem_iff, bne_iff_ne, ne_iff]
  exact (or_iff_right_of_imp False.elim).symm

end Lists

/-- Without any event there is no name. -/
theorem describes_empty : Describes [] .empty where
  lists := ⟨List.nodup_nil, fun _ => iff_of_false List.not_mem_nil not_since_nil, List.Pairwise.nil⟩
  get?_iff _ _ := iff_of_false nofun not_since_nil

/-- **One event** keeps the rule set as the log describes it. An event changes what the log says of
its own name, and for all others the log says what it said. -/
theorem Describes.apply {rules : RuleSet} (h : Describes log rules) (e : Event) :
    Describes (log ++ [e]) (e.apply rules) := by
  have missing_iff : ∀ key, ¬ Present log key ↔ key ∉ rules.names := fun key =>
    not_congr (h.lists.mem_iff key).symm
  -- each event is compared with what the log says of the name in question and of the others
  cases e with
  | add name added =>
    have brings : (Event.add name added).Brings name := rfl
    refine ⟨Event.names_apply_of_brings brings rules ▸ h.lists.brought brings,
      fun key rule => ?_⟩
    rw [Event.apply, get?_insert, latestAdd_concat, ← h.get?_iff]
    by_cases hkey : key = name
    · subst hkey
      simp
    · simp [hkey, Ne.symm hkey]
  | offer name offered =>
    have brings : (Event.offer name offered).Brings name := rfl
    refine ⟨Event.names_apply_of_brings brings rules ▸ h.lists.brought brings,
      fun key rule => ?_⟩
    rw [Event.apply, get?_insertIfNew, latestAdd_concat, ← h.get?_iff, missing_iff]
    by_cases hkey : key = name
    · subst hkey
      -- an offer counts only if the name is free
      by_cases taken : key ∈ rules.names
      · simp [taken]
      · simp [taken, get?_eq_none_iff.2 taken]
    · simp [hkey, Ne.symm hkey]
  | remove name =>
    refine ⟨names_erase rules name ▸ h.lists.removed, fun key rule => ?_⟩
    rw [Event.apply, get?_erase, latestAdd_concat, ← h.get?_iff]
    by_cases hkey : key = name
    · subst hkey
      simp
    · simp [hkey, Ne.symm hkey]

/-- **Every history**: its log describes the rule set that it has made. By induction on the log, one
event at a time. -/
theorem describes_result (h : History) : Describes h.log h.result := by
  rw [result_eq_foldl]
  induction h.log using List.reverseRecOn with
  | nil => exact describes_empty
  | append_singleton log e ih =>
    rw [List.foldl_concat]
    exact ih.apply e

/-- No name comes twice in a set that was made by a history. -/
theorem nodup_names_result (h : History) : h.result.names.Nodup :=
  h.describes_result.lists.nodup

/-- No two of the bundled rules have the same name. -/
theorem nodup_names_standard : RuleSet.standard.names.Nodup :=
  standard.nodup_names_result

/-- The rule sets that have a history are those in which each name stands once. -/
theorem exists_result_eq_iff {rules : RuleSet} :
    (∃ h : History, h.result = rules) ↔ rules.names.Nodup := by
  constructor
  · rintro ⟨h, rfl⟩
    exact h.nodup_names_result
  · intro nodup
    obtain ⟨entries⟩ := rules
    induction entries using List.reverseRecOn with
    | nil => exact ⟨empty, rfl⟩
    | append_singleton entries entry ih =>
      obtain ⟨key, rule⟩ := entry
      have split : (entries.map Prod.fst ++ [key]).Nodup := by simpa [names] using nodup
      obtain ⟨others, -, apart⟩ := List.nodup_append.1 split
      obtain ⟨h, hresult⟩ := ih others
      have free : key ∉ RuleSet.names ⟨entries⟩ := fun mem => apart key mem key (by simp) rfl
      refine ⟨h.add key rule, ?_⟩
      rw [result, hresult, insert, if_neg (mt contains_iff.1 free)]

/-- **Rule sets are ordered maps.** After any history, each name stands once, the names are those
that are there and stand in the order in which they were first added, each stands for the rule
that was added last, and the rule for a node is the first in this order that accepts it. A set
that is extended goes by its own rules first, then by those under the names that it lacks, and
extending is associative and idempotent. -/
theorem result_ordered_map (a b c : History) :
    a.result.names.Nodup ∧
    (∀ key, key ∈ a.result.names ↔ ∃ place, FirstAdded a.log key place) ∧
    (a.result.names.Pairwise fun earlier later =>
      ∀ m n, FirstAdded a.log earlier m → FirstAdded a.log later n → m < n) ∧
    (∀ key rule, a.result.get? key = some rule ↔ LatestAdd a.log key rule) ∧
    (∀ node options key rule, a.result.find? node options = some (key, rule) ↔
      a.result.get? key = some rule ∧ rule.accepts node options = true ∧
        ∃ before after, a.result.names = before ++ key :: after ∧
          ∀ earlier ∈ before, ∀ other, a.result.get? earlier = some other →
            other.accepts node options = false) ∧
    (∀ node options, (a.extend b).result.find? node options =
      (a.result.find? node options).or
        ((b.result.without a.result.names).find? node options)) ∧
    ((a.extend b).extend c).result = (a.extend (b.extend c)).result ∧
    ((a.extend b).extend b).result = (a.extend b).result ∧
    (a.extend a).result = a.result := by
  obtain ⟨⟨nodup, mem_iff, ordered⟩, get?_iff⟩ := a.describes_result
  refine ⟨nodup, fun key => (mem_iff key).trans present_iff_exists_firstAdded, ordered, get?_iff,
    fun _ _ _ _ => find?_eq_some_iff nodup, find?_extend b.nodup_names_result,
    extend_assoc b.nodup_names_result c.nodup_names_result,
    extend_extend_self b.nodup_names_result, extend_eq_self nodup (List.Subset.refl _)⟩

-- A name that is removed and added again comes last.
example (rule : Rule) :
    ((((empty.add "a" rule).add "b" rule).remove "a").add "a" rule).result.names = ["b", "a"] :=
  rfl

end History

end RuleSet

end Tagdown
