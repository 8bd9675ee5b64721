import Tagdown.Proofs.Conversion.Run
import Tagdown.Proofs.Document.History
import Tagdown.Proofs.Document.Markup
import Tagdown.Proofs.Entity.References

/-!
# Raw text in a conversion

The texts under some elements, scripts and styles among them, are printed as they are, since markup
means nothing there. A rule for such an element gets its content decoded like that of any other
element, although nothing was encoded when it was printed. So the rule does not see the text of the
element but what is read of it, and the two are the same just if there is no reference in the text
(`Converter.replacement?_of_rawText`). A script with `&amp;` in it comes to its rule as another one
(`Converter.replacement?_condition_ne`).
-/

namespace Tagdown

namespace Tree

variable {t : Tree} {id : NodeId}

/-- None of the other kinds of nodes has the name of such an element. -/
theorem isElement_of_isRawTextTag (hraw : Node.isRawTextTag (t.tagName id) = true) :
    t.isElement id = true := by
  rw [tagName] at hraw
  rw [isElement]
  cases hlabel : t.label id with
  | element tag attributes => rfl
  | document | text | comment =>
    rw [hlabel] at hraw
    exact absurd hraw (by decide)

/-- Raw text is printed as it is. -/
theorem innerHtml_of_rawText (h : t.IsForest) (hraw : Node.isRawTextTag (t.tagName id) = true)
    (texts : ∀ x ∈ t.children id, t.label x = .text) : t.innerHtml id = t.textContent id := by
  rw [innerHtml_of_texts h texts, hraw,
    textContent_of_texts h (Or.inr (isElement_of_isRawTextTag hraw)) texts]
  rfl

end Tree

/-- The same for texts as strings. -/
theorem decodeEntities_eq_self_iff {s : String} :
    decodeEntities s = s ↔ ¬ Entity.HasReference s.toList := by
  rw [← Entity.decode_eq_self_iff, ← String.toList_inj, decodeEntities, Text.toList_mapChars]

namespace Converter

open Tagdown.Tree (root)

variable {c : Converter} {t u : Tree} {done rest : List NodeId} {e : NodeId} {key : String}
variable {rule : Rule} {f : String → NodeRef → Options → String}

/-- **Raw text is decoded like any other.** The function of a rule for an element with raw text is
given what is read of the text. This is the text itself just if there is no reference in it, and so
it is only then that a function which gives back its content puts the text there. -/
theorem replacement?_of_rawText (h : t.WellFormed) (r : c.Reaches t done e rest u)
    (hraw : Node.isRawTextTag (u.tagName e) = true) (texts : ∀ x ∈ u.children e, u.label x = .text)
    (hasked : c.IsAsked ⟨u, e⟩) (hfind : c.rules.find? ⟨u, e⟩ c.options = some (key, rule))
    (hfunction : rule.replacement = .function f) :
    c.replacement? ⟨u, e⟩ = .ok (some (f (decodeEntities (u.textContent e)) ⟨u, e⟩ c.options)) ∧
      (decodeEntities (u.textContent e) = u.textContent e ↔
        ¬ Entity.HasReference (u.textContent e).toList) ∧
      ((∀ content n options, f content n options = content) →
        (c.replacement? ⟨u, e⟩ = .ok (some (u.textContent e)) ↔
          ¬ Entity.HasReference (u.textContent e).toList)) := by
  have inner : NodeRef.innerHtml ⟨u, e⟩ = u.textContent e :=
    Tree.innerHtml_of_rawText (r.isForest h) hraw texts
  have value : c.replacement? ⟨u, e⟩ =
      .ok (some (f (decodeEntities (u.textContent e)) ⟨u, e⟩ c.options)) := by
    rw [replacement?_of_asked hasked hfind, Rule.render, hfunction, inner]
    rfl
  refine ⟨value, decodeEntities_eq_self_iff, fun identity => ?_⟩
  rw [value, identity, Except.ok.injEq, Option.some.injEq, decodeEntities_eq_self_iff]

/-- A document with a script. -/
def script (text : String) : Tree :=
  Tree.empty.run
    [.createElement "script" [], .append root ⟨1⟩, .createText text, .append ⟨1⟩ ⟨2⟩]

/-- A rule for scripts that gives back their content. -/
def scriptRule : Rule :=
  .ofFunction (.tagName "script") fun content _ _ => content

def scriptsOnly : Converter where
  rules := ⟨[("script", scriptRule)]⟩
  options := { voidElements := .empty, blockElements := .empty, preformatted := .empty }

theorem scriptsOnly_find? (htag : u.tagName e = "script") :
    scriptsOnly.rules.find? ⟨u, e⟩ scriptsOnly.options = some ("script", scriptRule) := by
  have accepts : scriptRule.accepts ⟨u, e⟩ scriptsOnly.options = true := by
    show Text.eqIgnoringCase (u.tagName e) "script" = true
    rw [htag]
    decide
  rw [RuleSet.find?, scriptsOnly, List.find?_singleton]
  exact if_pos accepts

theorem replacement?_of_rawText_script :
    ∃ u, (script "a; b && c").WellFormed ∧
      scriptsOnly.Reaches (script "a; b && c") [] ⟨1⟩ [] u ∧
      Node.isRawTextTag (u.tagName ⟨1⟩) = true ∧ (∀ x ∈ u.children ⟨1⟩, u.label x = .text) ∧
      scriptsOnly.IsAsked ⟨u, ⟨1⟩⟩ ∧
      scriptsOnly.rules.find? ⟨u, ⟨1⟩⟩ scriptsOnly.options = some ("script", scriptRule) ∧
      scriptsOnly.replacement? ⟨u, ⟨1⟩⟩ = .ok (some "a; b && c") := by
  have h : (script "a; b && c").WellFormed :=
    Tree.WellFormed.run _ Tree.wellFormed_empty (Tree.allAllowed_of_areAllowed (by decide +kernel))
  obtain ⟨u, hu⟩ : ∃ u, u = (script "a; b && c").normalize scriptsOnly.options := ⟨_, rfl⟩
  have r : scriptsOnly.Reaches (script "a; b && c") [] ⟨1⟩ [] u :=
    ⟨by decide +kernel, by rw [hu]; rfl⟩
  have htag : u.tagName ⟨1⟩ = "script" := by
    rw [hu]
    decide +kernel
  have hraw : Node.isRawTextTag (u.tagName ⟨1⟩) = true := by
    rw [htag]
    decide
  have texts : ∀ x ∈ u.children ⟨1⟩, u.label x = .text := by
    rw [hu]
    decide +kernel
  have content : u.textContent ⟨1⟩ = "a; b && c" := by
    rw [hu]
    decide +kernel
  have hasked : scriptsOnly.IsAsked ⟨u, ⟨1⟩⟩ := by
    right
    rw [hu]
    decide +kernel
  obtain ⟨-, -, same⟩ :=
    replacement?_of_rawText h r hraw texts hasked (scriptsOnly_find? htag) rfl
  refine ⟨u, h, r, hraw, texts, hasked, scriptsOnly_find? htag, ?_⟩
  rw [← content]
  refine (same fun _ _ _ => rfl).2 ?_
  rw [content]
  decide +kernel

/-- A script with an operator that is spelled like two references is given to its rule with another
operator. -/
theorem replacement?_condition_ne :
    ∃ u, (script "a &amp;&amp; b").WellFormed ∧
      scriptsOnly.Reaches (script "a &amp;&amp; b") [] ⟨1⟩ [] u ∧
      Node.isRawTextTag (u.tagName ⟨1⟩) = true ∧ (∀ x ∈ u.children ⟨1⟩, u.label x = .text) ∧
      Text.isBlank (u.innerHtml ⟨1⟩).toList = false ∧
      scriptsOnly.rules.find? ⟨u, ⟨1⟩⟩ scriptsOnly.options = some ("script", scriptRule) ∧
      scriptRule.replacement = .function (fun content _ _ => content) ∧
      u.textContent ⟨1⟩ = "a &amp;&amp; b" ∧
      scriptsOnly.replacement? ⟨u, ⟨1⟩⟩ = .ok (some "a && b") ∧
      scriptsOnly.replacement? ⟨u, ⟨1⟩⟩ ≠ .ok (some (u.textContent ⟨1⟩)) := by
  have h : (script "a &amp;&amp; b").WellFormed :=
    Tree.WellFormed.run _ Tree.wellFormed_empty (Tree.allAllowed_of_areAllowed (by decide +kernel))
  refine ⟨(script "a &amp;&amp; b").normalize scriptsOnly.options, h, ⟨by decide +kernel, rfl⟩,
    by decide +kernel, by decide +kernel, by decide +kernel,
    scriptsOnly_find? (by decide +kernel), rfl, by decide +kernel, by decide +kernel,
    by decide +kernel⟩

end Converter

end Tagdown
