import Tagdown.Proofs.Conversion.Descendants
import Tagdown.Proofs.Conversion.Surroundings
import Tagdown.Proofs.Document.Contents

/-!
# What is left of each node

Where unmatched elements are unwrapped, nothing but texts ever comes into the place of an element.
So at any moment there is a list of texts for each node, the values of what stands where the node
stood (`Converter.leavings`), and with it the document between two visits is known: a rule sees its
element with the leavings of all that comes after it (`Converter.Sees`).

What is left of an element therefore depends on what is left of the nodes in it and of the siblings
after it, and on nothing else (`Converter.LeftBy`). When the conversion is over, this holds at every
element at once (`Converter.exists_leavings`), and no arena, no links and no order of visits is left
in what it says.
-/

namespace Tagdown.Converter

open Tagdown.Tree (root)

variable {c : Converter} {N t u : Tree}

/-- The texts that stand in the place of a node, which `rep x` are the nodes of. -/
def leavings (u : Tree) (rep : NodeId → List NodeId) (x : NodeId) : List String :=
  (rep x).map u.value

/-- A rule that is shown `n` sees the element `x` of `N` as it is when the nodes in it and the
siblings after it have left the texts `left`. -/
structure Sees (N : Tree) (left : NodeId → List String) (x : NodeId) (n : NodeRef) : Prop where
  label_eq : n.label = N.label x
  innerHtml_eq : n.innerHtml =
    Node.writeText (Node.isRawTextTag (N.tagName x)) (String.join ((N.children x).flatMap left))
  textContent_eq : n.textContent = String.join ((N.children x).flatMap left)
  parentLabel_eq : n.parent?.map NodeRef.label = (N.parent x).map N.label
  elementIndex_eq : n.elementIndex = 1 + (N.precedingSiblings x).countP N.isElement
  siblings_eq : ∀ {p l r}, N.children p = l ++ x :: r →
    n.previousSibling?.isNone = l.isEmpty ∧ n.nextSibling?.isNone = (r.flatMap left).isEmpty

/-- What is left of the element `x` is what the converter makes of it, as far as can be said from
what is left of the nodes around it. -/
inductive LeftBy (c : Converter) (N : Tree) (left : NodeId → List String) (x : NodeId) : Prop where
  | replaced {n : NodeRef} {markdown : String} (sees : Sees N left x n)
    (h : c.replacement? n = .ok (some markdown)) (left_eq : left x = [markdown])
  | unwrapped {n : NodeRef} (sees : Sees N left x n) (h : c.replacement? n = .ok none)
    (left_eq : left x = (N.children x).flatMap left)

section Congr

variable {left left' : NodeId → List String} {x : NodeId} {n : NodeRef}
variable (inside : ∀ y ∈ N.children x, left' y = left y)
  (after : ∀ {p l r}, N.children p = l ++ x :: r → ∀ y ∈ r, left' y = left y)
include inside after

/-- Of what is left elsewhere, a rule sees nothing. -/
theorem Sees.congr (s : Sees N left x n) : Sees N left' x n where
  label_eq := s.label_eq
  innerHtml_eq := by rw [s.innerHtml_eq, List.flatMap_congr inside]
  textContent_eq := by rw [s.textContent_eq, List.flatMap_congr inside]
  parentLabel_eq := s.parentLabel_eq
  elementIndex_eq := s.elementIndex_eq
  siblings_eq := by
    intro p l r hsplit
    rw [List.flatMap_congr (after hsplit)]
    exact s.siblings_eq hsplit

theorem LeftBy.congr (h : LeftBy c N left x) (here : left' x = left x) : LeftBy c N left' x := by
  cases h with
  | replaced sees h left_eq => exact .replaced (sees.congr inside after) h (here.trans left_eq)
  | unwrapped sees h left_eq =>
    refine .unwrapped (sees.congr inside after) h ?_
    rw [here, left_eq, List.flatMap_congr inside]

end Congr

/-! ## What the rules make of an element

A rule is shown a node of a half-converted document. All that it asks of it, the tag, the
attributes, the number among the siblings, the content, is told here by the element in `N` and by
what is left of the nodes around it. -/

section Rules

variable {left : NodeId → List String} {x : NodeId} {n : NodeRef}

theorem Sees.tagName_eq (s : Sees N left x n) : n.tagName = N.tagName x :=
  congrArg Label.name s.label_eq

/-- Its parent is there as it was. -/
theorem Sees.exists_parent (s : Sees N left x n) {p : NodeId} (hp : N.parent x = some p) :
    ∃ q, n.parent? = some q ∧ q.tagName = N.tagName p := by
  have heq := s.parentLabel_eq
  rw [hp] at heq
  obtain ⟨q, hq, hlabel⟩ := Option.map_eq_some_iff.1 heq
  exact ⟨q, hq, congrArg Label.name hlabel⟩

theorem Sees.parent_any (s : Sees N left x n) {p : NodeId} (hp : N.parent x = some p)
    (tag : String) : (n.parent?.any fun q => q.tagName == tag) = (N.tagName p == tag) := by
  obtain ⟨q, hq, htag⟩ := s.exists_parent hp
  rw [hq, Option.any_some, htag]

/-- The number of an element in a row of elements. -/
theorem Sees.elementIndex_of_split (s : Sees N left x n) (h : N.IsForest) {p : NodeId}
    {l r : List NodeId} (hsplit : N.children p = l ++ x :: r)
    (elements : ∀ y ∈ l, N.isElement y = true) : n.elementIndex = l.length + 1 := by
  rw [s.elementIndex_eq, h.precedingSiblings_eq hsplit, List.countP_reverse,
    List.countP_eq_length.2 elements, Nat.add_comm]

/-- What is in the element, as it is given to the rule for it. -/
theorem Sees.content_eq (s : Sees N left x n) (raw : Node.isRawTextTag (N.tagName x) = false) :
    decodeEntities n.innerHtml = String.join ((N.children x).flatMap left) := by
  rw [s.innerHtml_eq, raw, decodeEntities_writeText]

/-- **A rule with a function** leaves what the function makes of the content, if it is asked. The
bundled rules are such rules. The node that the function is given is one that `Sees` describes. -/
theorem LeftBy.eq_of_asked (h : LeftBy c N left x) (asked : ∀ n, Sees N left x n → c.IsAsked n)
    (raw : Node.isRawTextTag (N.tagName x) = false) {key : String} {rule : Rule}
    {f : String → NodeRef → Options → String} (function : rule.replacement = .function f)
    (find : ∀ n : NodeRef, n.tagName = N.tagName x →
      c.rules.find? n c.options = some (key, rule)) :
    ∃ n, Sees N left x n ∧
      left x = [f (String.join ((N.children x).flatMap left)) n c.options] := by
  have replacement {n : NodeRef} (sees : Sees N left x n) : c.replacement? n =
      .ok (some (f (String.join ((N.children x).flatMap left)) n c.options)) := by
    rw [replacement?_of_asked (asked n sees) (find n sees.tagName_eq), Rule.render, function,
      sees.content_eq raw]
    rfl
  cases h with
  | replaced sees hreplacement left_eq =>
    rw [replacement sees] at hreplacement
    cases hreplacement
    exact ⟨_, sees, left_eq⟩
  | unwrapped sees hreplacement =>
    rw [replacement sees] at hreplacement
    cases hreplacement

variable (full : Text.isBlank (String.join ((N.children x).flatMap left)).toList = false)
include full

theorem Sees.isAsked (s : Sees N left x n) : c.IsAsked n := by
  refine Or.inr ?_
  rw [s.innerHtml_eq, ← Bool.not_eq_true]
  intro hblank
  rw [Node.isBlank_of_writeText hblank] at full
  cases full

/-- It is asked if there is any content. -/
theorem LeftBy.eq_of_function (h : LeftBy c N left x)
    (raw : Node.isRawTextTag (N.tagName x) = false) {key : String} {rule : Rule}
    {f : String → NodeRef → Options → String} (function : rule.replacement = .function f)
    (find : ∀ n : NodeRef, n.tagName = N.tagName x →
      c.rules.find? n c.options = some (key, rule)) :
    ∃ n, Sees N left x n ∧
      left x = [f (String.join ((N.children x).flatMap left)) n c.options] :=
  h.eq_of_asked (fun _ sees => sees.isAsked full) raw function find

/-- Where no rule is for an element, it leaves its content, if there is any. -/
theorem LeftBy.eq_of_unmatched (h : LeftBy c N left x)
    (find : ∀ n, Sees N left x n → c.rules.find? n c.options = none) :
    left x = (N.children x).flatMap left := by
  cases h with
  | replaced sees hreplacement =>
    rw [replacement?_of_asked_none (sees.isAsked full) (find _ sees)] at hreplacement
    cases hreplacement
  | unwrapped sees hreplacement left_eq => exact left_eq

end Rules

/-! ## Rows of nodes

Lists of texts, as they come from the nodes of a row one after the other. -/

theorem join_singleton (value : String) : String.join [value] = value := by
  rw [String.join_cons, String.join_nil, String.append_empty]

theorem toList_join_flatMap (left : NodeId → List String) (xs : List NodeId) :
    (String.join (xs.flatMap left)).toList =
      xs.flatMap fun x => (String.join (left x)).toList := by
  simp only [String.toList_join, List.flatMap_assoc]

/-- Two rows whose members are the same one by one. -/
theorem flatMap_eq_of_map_eq {α β γ δ : Type} {f : α → γ} {g : β → γ} {f' : α → List δ}
    {g' : β → List δ} : ∀ {xs : List α} {ys : List β}, xs.map f = ys.map g →
      (∀ x ∈ xs, ∀ y ∈ ys, f x = g y → f' x = g' y) → xs.flatMap f' = ys.flatMap g'
  | [], [], _, _ => rfl
  | x :: xs, y :: ys, h, same => by
    obtain ⟨here, others⟩ := List.cons.inj h
    rw [List.flatMap_cons, List.flatMap_cons,
      same x List.mem_cons_self y List.mem_cons_self here,
      flatMap_eq_of_map_eq others fun x hx y hy =>
        same x (List.mem_cons_of_mem _ hx) y (List.mem_cons_of_mem _ hy)]

/-- The values of what stands in the place of some nodes. -/
theorem values_flatMap (u : Tree) (ids : List NodeId) (rep : NodeId → List NodeId) :
    u.values (ids.flatMap rep) = String.join (ids.flatMap (leavings u rep)) := by
  rw [Tree.values, List.map_flatMap]
  rfl

/-! ## At one visit

The document at a visit is the one that the run has led to. Above the element nothing has been
visited and after it everything has, which is all that `Sees` asks for. -/

section Visit

variable {done rest : List NodeId} {rep : NodeId → List NodeId} {e : NodeId}
variable (h : N.Clean) (policy : c.options.unmatched = .unwrap)
variable (split : (N.levelOrder root).reverse = done ++ e :: rest) (r : Run c N done rep u)
include h split r

/-- Above the element all stands as it did, and so do the siblings before it. -/
theorem Run.parentLabel_eq :
    (NodeRef.parent? ⟨u, e⟩).map NodeRef.label = (N.parent e).map N.label := by
  have hforest := h.wellFormed.forest
  have pr := r.progress hforest split
  show ((u.parent e).map _).map _ = _
  rw [pr.parent_above hforest split (Or.inl rfl)]
  cases hp : N.parent e with
  | none => rfl
  | some p =>
    have hlt := Progress.index_lt_above hforest split (Or.inr (Arena.below_of_parent hp))
    exact congrArg some (Tree.label_of_node_eq (pr.node_eq hlt))

theorem Run.siblings_eq {p : NodeId} {l rest' : List NodeId}
    (hsplit : N.children p = l ++ e :: rest') :
    (NodeRef.previousSibling? ⟨u, e⟩).isNone = l.isEmpty ∧
      (NodeRef.nextSibling? ⟨u, e⟩).isNone = (rest'.flatMap (leavings u rep)).isEmpty := by
  have hforest := h.wellFormed.forest
  have pr := r.progress hforest split
  obtain ⟨hprevious, hnext⟩ :=
    pr.forest.siblings (pr.children_above hforest split (Or.inl rfl) hsplit)
  have texts : rest'.flatMap (leavings u rep) = (rest'.flatMap rep).map u.value := by
    rw [List.map_flatMap]
    rfl
  show ((u.previousSibling e).map _).isNone = _ ∧ ((u.nextSibling e).map _).isNone = _
  rw [Option.isNone_map, Option.isNone_map, hprevious, hnext, texts, List.isEmpty_map]
  refine ⟨?_, ?_⟩
  · cases l with
    | nil => rfl
    | cons x l => rw [List.getLast?_cons]; rfl
  · cases rest'.flatMap rep <;> rfl

include policy

/-- **What a rule sees at a visit.** All elements below were visited and are texts by now; all above
still stand as in the normalized document. -/
theorem Run.sees : Sees N (leavings u rep) e ⟨u, e⟩ := by
  have hforest := h.wellFormed.forest
  have pr := r.progress hforest split
  have passed := pr.passed hforest split
  have hlabel : u.label e = N.label e := Tree.label_of_node_eq (pr.node_eq passed.index_lt)
  -- all elements below have been visited, and none of them was kept
  have texts : ∀ x ∈ u.children e, u.label x = .text := fun x hx =>
    r.label_of_child h split passed policy hx
  have values : u.values (u.children e) =
      String.join ((N.children e).flatMap (leavings u rep)) := by
    rw [pr.children_self hforest split, values_flatMap]
  have helement : u.isElement e = true := by
    rw [Tree.isElement, hlabel]
    exact Tree.isElement_of_mem_levelOrder hforest
      (Tree.mem_levelOrder_of_split split List.mem_cons_self)
  constructor
  · exact hlabel
  · show u.innerHtml e = _
    rw [Tree.innerHtml_of_texts pr.forest texts, values, Tree.tagName, hlabel, Tree.tagName]
  · show u.textContent e = _
    rw [Tree.textContent_of_texts pr.forest (Or.inr helement) texts, values]
  · exact r.parentLabel_eq h split
  · exact (pr.sameBefore hforest split (Or.inl rfl)).elementIndex_eq
  · exact fun hsplit => r.siblings_eq h split hsplit

end Visit

/-! ## A whole run

For each visited element its own visit has left something, and no later visit changes that: a
visit changes what is left of its own element only. So the induction on the run adds one element
at a time. -/

section Run

variable {done rest : List NodeId} {rep : NodeId → List NodeId} {e : NodeId} {ys : List NodeId}

/-- A text is never visited, so it stands where it stood. -/
theorem Progress.leavings_of_text (h : N.Clean)
    (split : (N.levelOrder root).reverse = done ++ rest) (pr : Progress N done rest rep u)
    {x : NodeId} (hx : N.Below root x) (htext : N.label x = .text) :
    leavings u rep x = [N.value x] := by
  have hdone : x ∉ done := by
    intro hdone
    have horder : x ∈ N.levelOrder root := by
      rw [← List.mem_reverse, split]
      exact List.mem_append_left rest hdone
    have helement := (h.mem_levelOrder.1 horder).2
    rw [Tree.isElement, htext] at helement
    cases helement
  rw [leavings, pr.rep_eq hdone, List.map_singleton, Tree.value, Tree.value,
    pr.node_eq hx.index_lt]

/-- A visit changes what is left of its own element only. -/
theorem Outcome.leavings_of_ne (o : Outcome c u e ys t) (pr : Progress N done rest rep u)
    {x : NodeId} (hx : x.index < N.size) (hne : x ≠ e) :
    leavings t (Function.update rep e ys) x = leavings u rep x := by
  rw [leavings, leavings, Function.update_of_ne hne]
  exact List.map_congr_left fun y hy => congrArg Node.value (o.node_eq (pr.rep_lt hx hy))

/-- What the visit leaves of its element. -/
theorem Outcome.leftBy (h : N.Clean) (policy : c.options.unmatched = .unwrap)
    (split : (N.levelOrder root).reverse = done ++ e :: rest) (r : Run c N done rep u)
    (o : Outcome c u e ys t) : LeftBy c N (leavings t (Function.update rep e ys)) e := by
  have hforest := h.wellFormed.forest
  have pr := r.progress hforest split
  -- neither a child of the element nor a sibling is the element itself
  have inside : ∀ y ∈ N.children e,
      leavings t (Function.update rep e ys) y = leavings u rep y := fun y hy =>
    o.leavings_of_ne pr (hforest.child_lt hy) (hforest.ne_of_mem hy)
  have after : ∀ {p l rest'}, N.children p = l ++ e :: rest' → ∀ y ∈ rest',
      leavings t (Function.update rep e ys) y = leavings u rep y := by
    intro p l rest' hsplit y hy
    have hmem : y ∈ N.children p := by rw [hsplit]; simp [hy]
    have hnodup := hforest.nodup p
    rw [hsplit] at hnodup
    refine o.leavings_of_ne pr (hforest.child_lt hmem) ?_
    rintro rfl
    exact (List.nodup_cons.1 (List.nodup_append.1 hnodup).2.1).1 hy
  have sees := (r.sees h policy split).congr inside after
  have here : leavings t (Function.update rep e ys) e = ys.map t.value := by
    rw [leavings, Function.update_self]
  cases o with
  | replaced hreplacement =>
    refine .replaced sees hreplacement (here.trans ?_)
    rw [List.map_singleton, Tree.value, Tree.node_fresh]
  | unwrapped hreplacement =>
    refine .unwrapped sees hreplacement (here.trans ?_)
    rw [List.flatMap_congr inside, pr.children_self hforest split, List.map_flatMap]
    exact List.flatMap_congr fun y _ =>
      List.map_congr_left fun z _ => congrArg Node.value (Tree.node_unwrap u e z)
  | kept _ hkeep =>
    rw [policy] at hkeep
    cases hkeep

/-- **What a run has left** of the elements that it has visited. By induction on the run. The later
visits neither happen in an element that was visited, nor among the siblings after it. -/
theorem Run.leftBy (h : N.Clean) (policy : c.options.unmatched = .unwrap) (r : Run c N done rep u) :
    ∀ {rest : List NodeId}, (N.levelOrder root).reverse = done ++ rest → ∀ x ∈ done,
      LeftBy c N (leavings u rep) x := by
  induction r with
  | start =>
    intro rest _ x hx
    cases hx
  | @visit done rep u t e ys run _ o ih =>
    intro rest split x hx
    rw [List.append_assoc, List.singleton_append] at split
    have hforest := h.wellFormed.forest
    have pr := run.progress hforest split
    rcases eq_or_ne x e with rfl | hne
    · exact o.leftBy h policy split run
    -- `e` comes after `x`, so it neither stands in `x` nor to the right of it
    · rw [List.mem_append, List.mem_singleton, or_iff_left hne] at hx
      have hbelow := Tree.below_of_mem_levelOrder hforest
        (Tree.mem_levelOrder_of_split split (List.mem_cons_of_mem e hx))
      refine (ih split x hx).congr ?_ ?_ (o.leavings_of_ne pr hbelow.index_lt hne)
      · intro y hy
        refine o.leavings_of_ne pr (hforest.child_lt hy) ?_
        rintro rfl
        exact Tree.not_mem_done_of_below hforest split (hforest.below_of_mem hy) hx
      · intro p l r hsplit y hy
        have hmem : y ∈ N.children p := by rw [hsplit]; simp [hy]
        refine o.leavings_of_ne pr (hforest.child_lt hmem) ?_
        rintro rfl
        obtain ⟨between, after, rfl⟩ := List.append_of_mem hy
        have hsplit' : N.children p = (l ++ x :: between) ++ y :: after := by rw [hsplit]; simp
        exact Tree.not_mem_done_of_sibling hforest split (Or.inl rfl) hsplit' (by simp) hx

end Run

/-! ## When the conversion is over

At this point the run is forgotten. `Yields` speaks of the normalized document and of lists of
texts, and the results about single elements begin with it. -/

/-- `left` are the leavings of all nodes of the normalized document `N`. -/
structure Yields (c : Converter) (N : Tree) (left : NodeId → List String) : Prop where
  text_eq : ∀ {x}, N.Below root x → N.label x = .text → left x = [N.value x]
  leftBy : ∀ {x}, N.Below root x → N.isElement x = true → LeftBy c N left x

section Yields

variable {left : NodeId → List String} {x : NodeId} {value : String}
  (yields : Yields c N left) (hx : N.Below root x)
include yields hx

theorem Yields.left_text (hcontents : N.contents x = .ofText value) : left x = [value] := by
  obtain ⟨hlabel, hvalue⟩ := Tree.of_contents_ofText hcontents
  rw [yields.text_eq hx hlabel, hvalue]

/-- A text that stands alone in an element is all that is left in it. -/
theorem Yields.flatMap_left_of_text (h : N.IsForest) {tag : String} {attributes : List Attribute}
    (hcontents : N.contents x = .ofElement tag attributes [.ofText value]) :
    (N.children x).flatMap left = [value] := by
  obtain ⟨-, -, hrow⟩ := Tree.of_contents_ofElement h hcontents
  obtain ⟨y, hchildren, htext⟩ := List.map_eq_singleton_iff.1 hrow
  have hy : y ∈ N.children x := hchildren ▸ List.mem_singleton_self y
  rw [hchildren, List.flatMap_singleton, yields.left_text (hx.trans (h.below_of_mem hy)) htext]

end Yields

/-- **The Markdown is what is left of the document**, in its final form. From here on nothing is
said of visits: results about documents of a certain form begin with this list for each node. -/
theorem exists_leavings (h : t.WellFormed) (bare : t.LeavesBare root)
    (policy : c.options.unmatched = .unwrap) {markdown : String}
    (hmarkdown : c.convertTree t = .ok markdown) :
    ∃ left, Yields c (t.normalize c.options) left ∧ markdown = Text.mapChars Text.tidy
      (String.join (((t.normalize c.options).children root).flatMap left)) := by
  have clean := Tree.clean_normalize h bare c.options
  rw [convertTree] at hmarkdown
  cases hvisit : c.visitAll (t.normalize c.options)
      ((t.normalize c.options).levelOrder root).reverse with
  | error error =>
    rw [hvisit] at hmarkdown
    cases hmarkdown
  | ok u =>
    rw [hvisit] at hmarkdown
    obtain rfl : finish u = markdown := Except.ok.inj hmarkdown
    -- what is left of a node is the text of those that stand in its place in the end
    obtain ⟨rep, r, pr, passed⟩ := exists_run_to_end clean hvisit
    have split := (List.append_nil ((t.normalize c.options).levelOrder root).reverse).symm
    refine ⟨leavings u rep, ⟨pr.leavings_of_text clean split, fun hx helement => ?_⟩, ?_⟩
    · exact r.leftBy clean policy split _
        (List.mem_reverse.2 (clean.mem_levelOrder.2 ⟨hx, helement⟩))
    · rw [finish_eq clean hvisit policy, pr.children_eq passed.index_lt passed.stands,
        values_flatMap]

end Tagdown.Converter
