import Tagdown.Proofs.Conversion.Run
import Tagdown.Proofs.Document.History
import Tagdown.Proofs.Rule.TemplateGrammar

/-!
# When a conversion fails

A conversion fails for one reason only: it comes to an element that is put to the rules, and the
first rule for it has a template that is none (`Converter.StopsAt`). Nothing else can fail, neither
a function nor a template that no element comes to.

The visits go on up to the first failure, so there is one such element at the most, and the error
says which rule it was and what its template is (`Converter.convertTree_fails_iff`).
-/

namespace Tagdown

/-- A text has a fault just if it is not a template. -/
theorem Template.exists_fault_iff {source : String} :
    (∃ fault, parse source = .error fault) ↔ ¬ IsTemplate source := by
  constructor
  · rintro ⟨fault, hfault⟩ ⟨pieces, hpieces, rfl⟩
    rw [parse_join pieces hpieces] at hfault
    cases hfault
  · intro hnot
    cases hparse : parse source with
    | error fault => exact ⟨fault, rfl⟩
    | ok segments => exact absurd (isTemplate_of_parse hparse) hnot

/-- A rule fails just if it has a template with a fault, whatever it is to be filled in for. -/
theorem Rule.render_eq_error_iff {rule : Rule} {content : String} {n : NodeRef} {options : Options}
    {error : Error} :
    rule.render content n options = .error error ↔
      ∃ source fault, rule.replacement = .template source ∧ Template.parse source = .error fault ∧
        error = .invalidReplacement none source fault := by
  rw [render]
  cases hreplacement : rule.replacement with
  | function f => simp [Replacement.render]
  | template source =>
    rw [Replacement.render, Template.render]
    cases hparse : Template.parse source with
    | ok segments => simp [Except.map, Except.mapError, hparse]
    | error fault =>
      simp only [Except.map, Except.mapError, Except.error.injEq, Replacement.template.injEq,
        exists_and_left, exists_eq_left', hparse]
      exact eq_comm

namespace Converter

open Tagdown.Tree (root)

variable {c : Converter} {N t u : Tree} {e : NodeId} {error : Error}

/-- There is no replacement just if the node is put to the rules and the first rule for it fails. -/
theorem replacement?_eq_error_iff {n : NodeRef} :
    c.replacement? n = .error error ↔
      c.IsAsked n ∧ ∃ key rule source fault, c.rules.find? n c.options = some (key, rule) ∧
        rule.replacement = .template source ∧ Template.parse source = .error fault ∧
        error = .invalidReplacement (some key) source fault := by
  constructor
  · intro h
    -- a blank node gets the empty text, so the rules were asked
    have hasked : c.IsAsked n := by
      by_contra hnot
      rw [replacement?_of_not_asked hnot] at h
      cases h
    refine ⟨hasked, ?_⟩
    cases hfind : c.rules.find? n c.options with
    | none =>
      rw [replacement?_of_asked_none hasked hfind] at h
      cases h
    | some entry =>
      obtain ⟨key, rule⟩ := entry
      rw [replacement?_of_asked hasked hfind] at h
      cases hrender : rule.render (decodeEntities n.innerHtml) n c.options with
      | ok markdown =>
        rw [hrender] at h
        cases h
      | error cause =>
        rw [hrender] at h
        obtain ⟨source, fault, hsource, hfault, rfl⟩ := Rule.render_eq_error_iff.1 hrender
        cases h
        exact ⟨key, rule, source, fault, rfl, hsource, hfault, rfl⟩
  · rintro ⟨hasked, key, rule, source, fault, hfind, hsource, hfault, rfl⟩
    have hrender : rule.render (decodeEntities n.innerHtml) n c.options =
        .error (.invalidReplacement none source fault) :=
      Rule.render_eq_error_iff.2 ⟨source, fault, hsource, hfault, rfl⟩
    rw [replacement?_of_asked hasked hfind, hrender]
    rfl

theorem visit_eq_error_iff (attached : t.parent e ≠ none) :
    c.visit t e = .error error ↔ c.replacement? ⟨t, e⟩ = .error error := by
  rw [visit, if_neg (by simpa using attached)]
  cases c.replacement? ⟨t, e⟩ <;> simp [Except.map]

/-- Visits fail just if one of them is the first to fail. -/
theorem visitAll_eq_error_iff {ids : List NodeId} :
    c.visitAll N ids = .error error ↔
      ∃ done e rest u, ids = done ++ e :: rest ∧ c.visitAll N done = .ok u ∧
        c.visit u e = .error error := by
  refine ⟨exists_failure, ?_⟩
  rintro ⟨done, e, rest, u, rfl, hdone, hvisit⟩
  rw [visitAll, List.foldlM_append, ← visitAll, hdone]
  show (List.foldlM c.visit u (e :: rest)) = _
  rw [List.foldlM_cons, hvisit]
  rfl

/-- Visits do not go on after one that fails. -/
theorem visitAll_ne_ok {done later : List NodeId} (hdone : c.visitAll N done = .ok u)
    (hvisit : c.visit u e = .error error) (t : Tree) :
    c.visitAll N (done ++ e :: later) ≠ .ok t := by
  rw [visitAll_eq_error_iff.2 ⟨done, e, later, u, rfl, hdone, hvisit⟩]
  exact fun h => by cases h

/-- The first visit to fail comes after all that did not. -/
theorem eq_nil_of_failure {done between rest rest' : List NodeId} {e' : NodeId} {u' : Tree}
    (split : e :: rest = between ++ e' :: rest') (hdone : c.visitAll N done = .ok u)
    (hvisit : c.visit u e = .error error) (hdone' : c.visitAll N (done ++ between) = .ok u') :
    between = [] := by
  cases between with
  | nil => rfl
  | cons x between =>
    obtain ⟨rfl, -⟩ := List.cons.inj split
    exact absurd hdone' (visitAll_ne_ok hdone hvisit u')

/-- The conversion of `t` comes to `e` after the elements `done`, puts it to the rules, and the
first rule for it is the one named `key`, which has a template `source` that is none. -/
def StopsAt (c : Converter) (t : Tree) (done : List NodeId) (e : NodeId) (key source : String) :
    Prop :=
  ∃ rest u rule, c.Reaches t done e rest u ∧ c.IsAsked ⟨u, e⟩ ∧
    c.rules.find? ⟨u, e⟩ c.options = some (key, rule) ∧ rule.replacement = .template source ∧
    ¬ Template.IsTemplate source

/-- Where a conversion stops, the visit of the element fails, with the fault of the template. -/
theorem StopsAt.exists_visit {done : List NodeId} {key source : String}
    (s : c.StopsAt t done e key source) (h : t.WellFormed) :
    ∃ rest u rule fault, c.Reaches t done e rest u ∧
      c.rules.find? ⟨u, e⟩ c.options = some (key, rule) ∧ rule.replacement = .template source ∧
      Template.parse source = .error fault ∧
      c.visit u e = .error (.invalidReplacement (some key) source fault) := by
  obtain ⟨rest, u, rule, reaches, hasked, hfind, hsource, hnot⟩ := s
  obtain ⟨fault, hfault⟩ := Template.exists_fault_iff.2 hnot
  refine ⟨rest, u, rule, fault, reaches, hfind, hsource, hfault, ?_⟩
  rw [visit_eq_error_iff (reaches.attached h), replacement?_eq_error_iff]
  exact ⟨hasked, key, rule, source, fault, hfind, hsource, hfault, rfl⟩

/-- The error of a conversion is the fault of the template at which it stops. -/
theorem convertTree_eq_error_iff (h : t.WellFormed) :
    c.convertTree t = .error error ↔
      ∃ done e key source fault, c.StopsAt t done e key source ∧
        Template.parse source = .error fault ∧
        error = .invalidReplacement (some key) source fault := by
  -- nothing after the visits can fail
  have hvisits : c.convertTree t = .error error ↔
      c.visitAll (t.normalize c.options) ((t.normalize c.options).levelOrder root).reverse =
        .error error := by
    rw [convertTree]
    cases c.visitAll (t.normalize c.options) ((t.normalize c.options).levelOrder root).reverse <;>
      simp [Except.map]
  rw [hvisits, visitAll_eq_error_iff]
  constructor
  · rintro ⟨done, e, rest, u, split, hdone, hvisit⟩
    have reaches : c.Reaches t done e rest u := ⟨split, hdone⟩
    rw [visit_eq_error_iff (reaches.attached h), replacement?_eq_error_iff] at hvisit
    obtain ⟨hasked, key, rule, source, fault, hfind, hsource, hfault, rfl⟩ := hvisit
    exact ⟨done, e, key, source, fault, ⟨rest, u, rule, reaches, hasked, hfind, hsource,
      Template.exists_fault_iff.1 ⟨fault, hfault⟩⟩, hfault, rfl⟩
  · rintro ⟨done, e, key, source, fault, s, hfault, rfl⟩
    obtain ⟨rest, u, rule, fault', reaches, -, -, hfault', hvisit⟩ := s.exists_visit h
    rw [hfault, Except.error.injEq] at hfault'
    -- the parser is a function, so it is one and the same fault
    subst hfault'
    exact ⟨done, e, rest, u, reaches.split, reaches.visited, hvisit⟩

theorem StopsAt.convertTree_eq {done : List NodeId} {key source : String}
    (s : c.StopsAt t done e key source) (h : t.WellFormed) :
    ∃ fault, Template.parse source = .error fault ∧
      c.convertTree t = .error (.invalidReplacement (some key) source fault) := by
  obtain ⟨-, -, -, fault, -, -, -, hfault, -⟩ := s.exists_visit h
  exact ⟨fault, hfault,
    (convertTree_eq_error_iff h).2 ⟨done, e, key, source, fault, s, hfault, rfl⟩⟩

/-- A conversion stops at one element at the most. -/
theorem StopsAt.unique {done done' : List NodeId} {e' : NodeId} {key key' source source' : String}
    (s : c.StopsAt t done e key source) (s' : c.StopsAt t done' e' key' source')
    (h : t.WellFormed) : done = done' ∧ e = e' ∧ key = key' ∧ source = source' := by
  obtain ⟨rest, u, rule, fault, r, hfind, hsource, -, hvisit⟩ := s.exists_visit h
  obtain ⟨rest', u', rule', fault', r', hfind', hsource', -, hvisit'⟩ := s'.exists_visit h
  -- neither of the two comes before the other
  have hdone : done = done' := by
    rcases List.append_eq_append_iff.1 (r.split.symm.trans r'.split) with
      ⟨between, rfl, split⟩ | ⟨between, rfl, split⟩
    · rw [eq_nil_of_failure split r.visited hvisit r'.visited, List.append_nil]
    · rw [eq_nil_of_failure split r'.visited hvisit' r.visited, List.append_nil]
  subst hdone
  obtain ⟨rfl, -⟩ := List.cons.inj (List.append_cancel_left (r.split.symm.trans r'.split))
  obtain rfl : u = u' := Except.ok.inj (r.visited.symm.trans r'.visited)
  rw [hfind, Option.some.injEq, Prod.mk.injEq] at hfind'
  obtain ⟨rfl, rfl⟩ := hfind'
  rw [hsource, Replacement.template.injEq] at hsource'
  exact ⟨rfl, rfl, rfl, hsource'⟩

theorem StopsAt.exists_mem {done : List NodeId} {key source : String}
    (s : c.StopsAt t done e key source) :
    ∃ rule, (key, rule) ∈ c.rules.entries ∧ rule.replacement = .template source ∧
      ¬ Template.IsTemplate source := by
  obtain ⟨rest, u, rule, -, -, hfind, hsource, hnot⟩ := s
  exact ⟨rule, List.mem_of_find?_eq_some hfind, hsource, hnot⟩

/-- A conversion that stops nowhere gives a text. -/
theorem exists_markdown (h : t.WellFormed)
    (goesOn : ∀ done e key source, ¬ c.StopsAt t done e key source) :
    ∃ markdown, c.convertTree t = .ok markdown := by
  cases hconvert : c.convertTree t with
  | ok markdown => exact ⟨markdown, rfl⟩
  | error error =>
    obtain ⟨done, e, key, source, fault, s, -, -⟩ := (convertTree_eq_error_iff h).1 hconvert
    exact absurd s (goesOn done e key source)

/-- The bundled rules have functions, so a conversion with them always succeeds. -/
theorem exists_markdown_standard (h : t.WellFormed) :
    ∃ markdown, standard.convertTree t = .ok markdown := by
  refine exists_markdown h fun done e key source s => ?_
  obtain ⟨rule, hmem, hsource, -⟩ := s.exists_mem
  have functions : ∀ entry ∈ Rule.standard, ∃ f, entry.2.replacement = .function f := by
    intro entry hentry
    simp only [Rule.standard, List.mem_cons, List.not_mem_nil, or_false] at hentry
    rcases hentry with
      rfl | rfl | rfl | rfl | rfl | rfl | rfl | rfl | rfl | rfl | rfl | rfl | rfl <;>
      exact ⟨_, rfl⟩
  obtain ⟨f, hf⟩ := functions (key, rule) hmem
  rw [hf] at hsource
  cases hsource

/-- **A conversion fails just if a template that is none is put to use**: the visits come to an
element that is void or not blank, and the first rule for it has a template that is none. There is
one such element at the most, and the error names the rule and its template. -/
theorem convertTree_fails_iff (c : Converter) {t : Tree} (h : t.WellFormed) :
    ((∃ error, c.convertTree t = .error error) ↔
      ∃ done e key source, c.StopsAt t done e key source) ∧
    (∀ done e key source, c.StopsAt t done e key source →
      ∃ fault error, Template.parse source = .error fault ∧ c.convertTree t = .error error ∧
        error = .invalidReplacement (some key) source fault ∧
        error.message = "Invalid replacement: " ++ ("rule `" ++ key ++ "`: ") ++
          "template `" ++ source ++ "`: " ++ fault.message) ∧
    (∀ done e key source done' e' key' source', c.StopsAt t done e key source →
      c.StopsAt t done' e' key' source' →
        done = done' ∧ e = e' ∧ key = key' ∧ source = source') ∧
    ((∀ done e key source, ¬ c.StopsAt t done e key source) →
      ∃ markdown, c.convertTree t = .ok markdown) ∧
    ((∀ key rule source, (key, rule) ∈ c.rules.entries → rule.replacement = .template source →
      Template.IsTemplate source) → ∃ markdown, c.convertTree t = .ok markdown) := by
  refine ⟨⟨?_, ?_⟩, ?_, ?_, exists_markdown h, ?_⟩
  · rintro ⟨error, herror⟩
    obtain ⟨done, e, key, source, fault, s, -, -⟩ := (convertTree_eq_error_iff h).1 herror
    exact ⟨done, e, key, source, s⟩
  · rintro ⟨done, e, key, source, s⟩
    obtain ⟨fault, -, herror⟩ := s.convertTree_eq h
    exact ⟨_, herror⟩
  · intro done e key source s
    obtain ⟨fault, hfault, herror⟩ := s.convertTree_eq h
    exact ⟨fault, _, hfault, herror, rfl, rfl⟩
  · intro done e key source done' e' key' source' s s'
    exact s.unique s' h
  · intro templates
    refine exists_markdown h fun done e key source s => ?_
    obtain ⟨rule, hmem, hsource, hnot⟩ := s.exists_mem
    exact hnot (templates key rule source hmem hsource)

/-- A paragraph with two words of which the second is emphasized, a space in a span, and a strong
word. -/
def fourKinds : Tree :=
  Tree.empty.run
    [.createElement "p" [], .append root ⟨1⟩, .createText "one ", .append ⟨1⟩ ⟨2⟩,
     .createElement "em" [], .append ⟨1⟩ ⟨3⟩, .createText "two", .append ⟨3⟩ ⟨4⟩,
     .createElement "span" [], .append ⟨1⟩ ⟨5⟩, .createText " ", .append ⟨5⟩ ⟨6⟩,
     .createElement "strong" [], .append ⟨1⟩ ⟨7⟩, .createText "three", .append ⟨7⟩ ⟨8⟩]

/-- Rules for its tags: only the template for `strong` is one. -/
def faultyRules : Converter where
  rules := ⟨[("strong", .ofTemplate (.tagName "strong") "**\x7bcontent\x7d**"),
    ("space", .ofTemplate (.tagName "span") "\x7d"),
    ("emphasis", .ofTemplate (.tagName "em") "\x7bbad"),
    ("paragraph", .ofTemplate (.tagName "p") "\x7d")]⟩
  options := { voidElements := .empty, blockElements := .empty, preformatted := .empty }

theorem convertTree_fails_iff_fourKinds :
    fourKinds.WellFormed ∧
      faultyRules.convertTree fourKinds =
        .error (.invalidReplacement (some "emphasis") "\x7bbad" .unterminatedPlaceholder) ∧
      ∃ done e, faultyRules.StopsAt fourKinds done e "emphasis" "\x7bbad" := by
  have h : fourKinds.WellFormed := Tree.WellFormed.run _ Tree.wellFormed_empty
    (Tree.allAllowed_of_areAllowed (by decide +kernel))
  have fails : faultyRules.convertTree fourKinds =
      .error (.invalidReplacement (some "emphasis") "\x7bbad" .unterminatedPlaceholder) := by
    decide +kernel
  obtain ⟨stops_iff, names, -⟩ := convertTree_fails_iff faultyRules h
  obtain ⟨done, e, key, source, stops⟩ := stops_iff.1 ⟨_, fails⟩
  obtain ⟨fault, error, -, herror, rfl, -⟩ := names done e key source stops
  rw [fails, Except.error.injEq, Error.invalidReplacement.injEq, Option.some.injEq] at herror
  obtain ⟨rfl, rfl, -⟩ := herror
  exact ⟨h, fails, done, e, stops⟩

end Converter

end Tagdown
