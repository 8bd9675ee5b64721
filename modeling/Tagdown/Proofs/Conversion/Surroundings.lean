import Tagdown.Proofs.Conversion.Run
import Tagdown.Proofs.Document.History

/-!
# What a rule sees around its element

When an element is visited, many nodes of the document were replaced already, but none before
the element: all that is above it, and all that stands before it or before a node above it, is
as normalization has left it (`surroundings_unchanged`). A rule that counts the elements before
its own, as the one for the items of an ordered list does, so counts those of the normalized
document.
-/

namespace Tagdown.Converter

open Tagdown.Tree (root)

/-- The node, its parent and the siblings before it are in `u` what they are in `N`. -/
structure SameBefore (N u : Tree) (q : NodeId) : Prop where
  node_eq : u.node q = N.node q
  parent_eq : u.parent q = N.parent q
  precedingSiblings_eq : u.precedingSiblings q = N.precedingSiblings q
  sibling_eq : ∀ x ∈ N.precedingSiblings q, u.node x = N.node x

namespace Progress

variable {N t : Tree} {e : NodeId} {done rest : List NodeId} {rep : NodeId → List NodeId}

section Visit

variable (h : N.IsForest)
variable (split : (N.levelOrder root).reverse = done ++ e :: rest)
variable (pr : Progress N done (e :: rest) rep t)
include h split pr

/-- The siblings before the element, or before a node above it, stand where they stood: only
visits to come can replace them. -/
theorem children_above {q p : NodeId} (hq : q = e ∨ N.Below q e) {l r : List NodeId}
    (hsplit : N.children p = l ++ q :: r) : t.children p = l ++ q :: r.flatMap rep := by
  have hpq : N.Below p q := Arena.below_of_parent (h.parent_of_split hsplit)
  have hpe : N.Below p e := by
    rcases hq with rfl | hq
    · exact hpq
    · exact hpq.trans hq
  have hrepq : rep q = [q] := by
    rcases hq with rfl | hq
    · exact rep_self h split pr
    · exact rep_above h split pr hq
  -- the visits go from the back, so none has come to a sibling in `l` yet
  have hl : l.flatMap rep = l := by
    have : l.flatMap rep = l.flatMap fun y => [y] := List.flatMap_congr fun y hy =>
      pr.rep_eq (Tree.not_mem_done_of_sibling h split hq hsplit hy)
    rw [this, List.flatMap_singleton']
  have hp : p.index < N.size := h.parent_lt (h.mem_iff.2 (h.parent_of_split hsplit))
  rw [pr.children_eq hp (rep_above h split pr hpe), hsplit, List.flatMap_append,
    List.flatMap_cons, hl, hrepq, List.singleton_append]

theorem sameBefore {q : NodeId} (hq : q = e ∨ N.Below q e) : SameBefore N t q := by
  have hnode := pr.node_eq (index_lt_above h split hq)
  have hparent := parent_above h split pr hq
  rcases hp : N.parent q with _ | p
  · have hnone : N.precedingSiblings q = [] := h.precedingSiblings_of_orphan hp
    refine ⟨hnode, hparent, ?_, ?_⟩
    · rw [hnone, pr.forest.precedingSiblings_of_orphan (hparent.trans hp)]
    · intro x hx
      rw [hnone] at hx
      cases hx
  · obtain ⟨l, r, hsplit⟩ := List.append_of_mem (h.mem_iff.2 hp)
    have hsplit' := children_above h split pr hq hsplit
    refine ⟨hnode, hparent, ?_, ?_⟩
    · rw [h.precedingSiblings_eq hsplit, pr.forest.precedingSiblings_eq hsplit']
    · intro x hx
      rw [h.precedingSiblings_eq hsplit, List.mem_reverse] at hx
      exact pr.node_eq (h.child_lt (hsplit ▸ List.mem_append_left _ hx))

end Visit

end Progress

/-- The number of an item among the elements of its list. -/
theorem SameBefore.elementIndex_eq {N u : Tree} {e : NodeId} (same : SameBefore N u e) :
    NodeRef.elementIndex ⟨u, e⟩ = 1 + (N.precedingSiblings e).countP N.isElement := by
  have hcount : (N.precedingSiblings e).countP u.isElement =
      (N.precedingSiblings e).countP N.isElement := by
    refine List.countP_congr fun x hx => ?_
    rw [Tree.isElement, Tree.label, same.sibling_eq x hx]
    rfl
  show (u.precedingSiblings e).countP u.isElement + 1 = _
  rw [same.precedingSiblings_eq, hcount, Nat.add_comm]

/-- What the rule for list items counts. -/
theorem SameBefore.itemMarker_eq {N u : Tree} {e p : NodeId} (same : SameBefore N u e)
    (hp : N.parent e = some p) (hnode : u.node p = N.node p) (hol : N.tagName p = "ol") :
    Rule.itemMarker ⟨u, e⟩ =
      toString (1 + (N.precedingSiblings e).countP N.isElement) ++ ".  " := by
  have hparent : NodeRef.parent? ⟨u, e⟩ = some ⟨u, p⟩ := by
    show (u.parent e).map _ = _
    rw [same.parent_eq, hp]
    rfl
  have htag : NodeRef.tagName ⟨u, p⟩ = "ol" := by
    show (u.node p).label.name = "ol"
    rw [hnode]
    exact hol
  rw [Rule.itemMarker, hparent]
  dsimp only
  rw [if_pos htag, same.elementIndex_eq]

/-- **All that comes before an element is as it was** when the element is visited: the element
itself and each node above it have the parents and the preceding siblings that normalization
has left. So the item of an ordered list gets the number that it has among the elements there. -/
theorem surroundings_unchanged {c : Converter} {t u : Tree} {done rest : List NodeId} {e : NodeId}
    (h : t.WellFormed) (r : c.Reaches t done e rest u) :
    (∀ q, q = e ∨ (t.normalize c.options).Below q e → SameBefore (t.normalize c.options) u q) ∧
      NodeRef.elementIndex ⟨u, e⟩ = 1 + ((t.normalize c.options).precedingSiblings e).countP
        (t.normalize c.options).isElement ∧
      ∀ p, (t.normalize c.options).parent e = some p → (t.normalize c.options).tagName p = "ol" →
        Rule.itemMarker ⟨u, e⟩ = toString (1 + ((t.normalize c.options).precedingSiblings e).countP
          (t.normalize c.options).isElement) ++ ".  " := by
  have hforest := (Tree.trims_normalize t c.options).isForest h.forest
  obtain ⟨rep, -, pr⟩ := r.exists_run h
  have same : ∀ q, q = e ∨ (t.normalize c.options).Below q e →
      SameBefore (t.normalize c.options) u q := fun q => pr.sameBefore hforest r.split
  refine ⟨same, (same e (Or.inl rfl)).elementIndex_eq, ?_⟩
  intro p hp hol
  have hnode := (same p (Or.inr (Arena.below_of_parent hp))).node_eq
  exact (same e (Or.inl rfl)).itemMarker_eq hp hnode hol

/-- An ordered list of three items, with a comment after the first, markup in the second, and
nothing but a line break in the third. -/
def shoppingList : Tree :=
  Tree.empty.run
    [.createElement "ol" [], .append root ⟨1⟩, .createElement "li" [], .append ⟨1⟩ ⟨2⟩,
     .createText "milk", .append ⟨2⟩ ⟨3⟩, .createComment "soy", .append ⟨1⟩ ⟨4⟩,
     .createElement "li" [], .append ⟨1⟩ ⟨5⟩, .createText "two ", .append ⟨5⟩ ⟨6⟩,
     .createElement "em" [], .append ⟨5⟩ ⟨7⟩, .createText "eggs", .append ⟨7⟩ ⟨8⟩,
     .createElement "li" [], .append ⟨1⟩ ⟨9⟩, .createElement "br" [], .append ⟨9⟩ ⟨10⟩]

/-- A converter for items only. -/
def itemsOnly : Converter where
  rules := ⟨[("list_item", ⟨.tagName "li", Rule.listItem.replacement⟩)]⟩
  options := { voidElements := .empty, blockElements := .empty, preformatted := .empty }

theorem surroundings_unchanged_shoppingList :
    ∃ u, shoppingList.WellFormed ∧
      itemsOnly.Reaches shoppingList [⟨10⟩, ⟨7⟩, ⟨9⟩] ⟨5⟩ [⟨2⟩, ⟨1⟩] u ∧
      Rule.itemMarker ⟨u, ⟨5⟩⟩ = "2.  " := by
  have h : shoppingList.WellFormed := Tree.WellFormed.run _ Tree.wellFormed_empty
    (Tree.allAllowed_of_areAllowed (by decide +kernel))
  have hok : (itemsOnly.visitAll (shoppingList.normalize itemsOnly.options)
      [⟨10⟩, ⟨7⟩, ⟨9⟩]).isOk = true := by decide +kernel
  rcases hvisit : itemsOnly.visitAll (shoppingList.normalize itemsOnly.options)
      [⟨10⟩, ⟨7⟩, ⟨9⟩] with error | u
  · rw [hvisit] at hok
    cases hok
  · have r : itemsOnly.Reaches shoppingList [⟨10⟩, ⟨7⟩, ⟨9⟩] ⟨5⟩ [⟨2⟩, ⟨1⟩] u :=
      ⟨by decide +kernel, hvisit⟩
    obtain ⟨-, -, marker⟩ := surroundings_unchanged h r
    refine ⟨u, h, r, ?_⟩
    rw [marker ⟨1⟩ (by decide +kernel) (by decide +kernel)]
    decide +kernel

end Tagdown.Converter
