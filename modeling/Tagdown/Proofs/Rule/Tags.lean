import Mathlib.Tactic.TFAE
import Tagdown.Arena.Lemmas
import Tagdown.Proofs.Text.Lowercase
import Tagdown.Rule.Basic

/-!
# Filters by tag

The tag of an element is put into lower case when the element is made, and so is the tag that a
filter is made for. The one is lower case in the sense of `asciiLower`, and the other in the sense
of Unicode. So a filter is for the elements whose tag is the lower case of its own, and it goes by
the letters `A` to `Z` alone just as long as no other capital letter is in that tag. If there is
one, the filter does not accept even the element that is made with the very same tag
(`accepts_made`).
-/

namespace Tagdown

/-- The element that was just made, in its document. -/
def NodeRef.made (t : Tree) (tag : String) (attributes : List Attribute) : NodeRef :=
  ⟨(t.createElement tag attributes).1, (t.createElement tag attributes).2⟩

theorem NodeRef.tagName_made (t : Tree) (tag : String) (attributes : List Attribute) :
    (made t tag attributes).tagName = Text.asciiLower tag := by
  have payload : (t.createElement tag attributes).1.payload? ⟨t.size⟩ =
      some { label := .element (Text.asciiLower tag) attributes } := by
    rw [Tree.createElement, Arena.payload?_push, if_pos rfl]
  show (((t.createElement tag attributes).1.payload? ⟨t.size⟩).getD .emptyDocument).label.name = _
  rw [payload]
  rfl

namespace Filter

variable {n : NodeRef} {options : Options}

theorem accepts_tag {name : String} :
    (tag name).accepts n options = true ↔ Text.asciiLower n.tagName = Text.lowercase name := by
  rw [tag, accepts, Text.eqIgnoringCase_iff, Text.asciiLower_lowercase]

/-- A filter for some tags accepts what a filter for one of them does. -/
theorem accepts_tags {names : List String} :
    (tags names).accepts n options = true ↔
      ∃ name ∈ names, (tag name).accepts n options = true := by
  rw [tags, accepts, List.any_map, List.any_eq_true]
  rfl

/-- An element is accepted if it was made with the tag of the filter in lower case. -/
theorem accepts_tag_made {t : Tree} {attributes : List Attribute} {name other : String} :
    (tag name).accepts (.made t other attributes) options = true ↔
      Text.asciiLower other = Text.lowercase name := by
  rw [accepts_tag, NodeRef.tagName_made, Text.asciiLower_asciiLower]

/-- **What a filter by tag accepts** of the elements that are made with any tag. It goes by the
tag without regard to the case of ASCII letters, and it accepts the element that is made with its
own tag, just if no capital letter beyond ASCII is in its tag. A filter for some tags accepts what
a filter for one of them does. -/
theorem accepts_made (t : Tree) (attributes : List Attribute) (options : Options) :
    (∀ name other, (tag name).accepts (.made t other attributes) options = true ↔
      Text.asciiLower other = Text.lowercase name) ∧
    (∀ names other, (tags names).accepts (.made t other attributes) options = true ↔
      ∃ name ∈ names, (tag name).accepts (.made t other attributes) options = true) ∧
    ∀ name, List.TFAE [
      ∀ other, (tag name).accepts (.made t other attributes) options = true ↔
        Text.eqIgnoringCase name other = true,
      (tag name).accepts (.made t name attributes) options = true,
      ∀ c ∈ name.toList, Text.isForeignCapital c = false] := by
  refine ⟨fun _ _ => accepts_tag_made, fun _ _ => accepts_tags, fun name => ?_⟩
  tfae_have 1 → 2 := fun h => (h name).2 (Text.eqIgnoringCase_iff.2 rfl)
  tfae_have 2 → 3 := fun h => Text.lowercase_eq_asciiLower_iff.1 (accepts_tag_made.1 h).symm
  tfae_have 3 → 1 := by
    intro h other
    rw [accepts_tag_made, Text.eqIgnoringCase_iff, Text.lowercase_eq_asciiLower_iff.2 h, eq_comm]
  tfae_finish

/-- A filter for the tag `É` does not accept the element that is made with this tag: the tag of
the element stays as it is, and that of the filter does not. -/
theorem accepts_made_acute_ne :
    (tag "É").accepts (.made .empty "É" []) {} ≠ true ∧ Text.eqIgnoringCase "É" "É" = true := by
  refine ⟨fun accepted => ?_, Text.eqIgnoringCase_iff.2 rfl⟩
  have foreign : Text.isForeignCapital 'É' = true := by decide +kernel
  have own := Text.lowercase_eq_asciiLower_iff.1 (accepts_tag_made.1 accepted).symm 'É' (by decide)
  rw [foreign] at own
  cases own

end Filter

end Tagdown
