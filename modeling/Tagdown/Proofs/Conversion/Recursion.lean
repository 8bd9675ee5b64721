import Tagdown.Proofs.Conversion.Descendants
import Tagdown.Proofs.Rule.Declarative

/-!
# A conversion as a recursion

With rules that are given as data, what a conversion makes of an element depends on what is
inside the element, and on nothing around it. `Converter.evaluate` says what that is by recursion
on the ordered tree of contents: no arena, no order of visits, and no text that is written as
HTML and read again.

The conversion itself changes one document level by level. That both give the same Markdown, and
fail for the same documents, is `toOption_convertTree`. Between two visits, the nodes that stand
where an element stood have its value, put together (`Run.evaluate_eq`).
-/

namespace Tagdown

open Tagdown.Tree (root)

/-- The node as the only one of a document. -/
def NodeRef.alone (n : Node) : NodeRef :=
  ⟨⟨#[{ payload := n }]⟩, ⟨0⟩⟩

namespace Converter

/-! ## The recursion

`evaluate` works on terms: for a text its value, for an element what the rule makes of the value
of its row. It has no state, and so it cannot see anything but what is in the element. -/

/-- The Markdown for an element from that of its content: nothing if the content is blank, what
the first rule for the element makes of it, or the content itself if there is no rule. -/
def evaluateElement (c : Converter) (n : Node) (content : String) : Option String :=
  let raw := Node.isRawTextTag n.label.name
  if !c.options.isVoid n.label.name && Text.isBlank (Node.writeText raw content).toList then some ""
  else
    match c.rules.find? (.alone n) c.options with
    | none => some content
    | some (_, rule) =>
      let content := if raw then decodeEntities content else content
      (rule.render content (.alone n) c.options).toOption

mutual

/-- The Markdown for a document, or nothing if some rule fails in it. -/
def evaluate (c : Converter) : Rose Node → Option String
  | .node n children =>
    match n.label with
    | .text => some n.value
    | .element _ _ => (evaluateAll c children).bind (c.evaluateElement n)
    | .comment => some ""
    | .document => some ""

/-- The Markdown for documents one after the other. -/
def evaluateAll (c : Converter) : List (Rose Node) → Option String
  | [] => some ""
  | t :: ts => (evaluate c t).bind fun s => (evaluateAll c ts).map (s ++ ·)

end

variable {c : Converter} {N t u : Tree}

/-- One document without a value leaves them all without one. -/
theorem evaluateAll_eq_none {ts : List (Rose Node)} {t : Rose Node} (ht : t ∈ ts)
    (h : c.evaluate t = none) : c.evaluateAll ts = none := by
  induction ts with
  | nil => cases ht
  | cons s ts ih =>
    rw [evaluateAll]
    rcases List.mem_cons.1 ht with rfl | ht
    · rw [h]
      rfl
    · rw [ih ht]
      cases c.evaluate s <;> rfl

/-- The values of documents put together. -/
theorem evaluateAll_eq_values {ids : List NodeId} {rep : NodeId → List NodeId}
    (h : ∀ x ∈ ids, c.evaluate (N.markup x) = some (u.values (rep x))) :
    c.evaluateAll (ids.map N.markup) = some (u.values (ids.flatMap rep)) := by
  induction ids with
  | nil => rfl
  | cons x ids ih =>
    rw [List.map_cons, evaluateAll, h x List.mem_cons_self,
      ih fun y hy => h y (List.mem_cons_of_mem x hy), List.flatMap_cons, Tree.values_append]
    rfl

theorem evaluate_of_text (h : N.IsForest) {x : NodeId} (hx : N.label x = .text) :
    c.evaluate (N.markup x) = some (N.value x) := by
  have hnode : (N.node x).label = .text := hx
  rw [Tree.markup_eq h, evaluate, hnode]
  rfl

theorem evaluate_of_element (h : N.IsForest) {e : NodeId} (he : N.isElement e = true) :
    c.evaluate (N.markup e) =
      (c.evaluateAll ((N.children e).map N.markup)).bind (c.evaluateElement (N.node e)) := by
  rcases hlabel : (N.node e).label with _ | ⟨tag, attributes⟩ | _ | _
  case element => rw [Tree.markup_eq h, evaluate, hlabel]
  all_goals
    rw [Tree.isElement, Tree.label, hlabel] at he
    cases he

/-! ## A visit and the recursion

By the time of its visit an element has nothing but texts in it, and they have the value of its
contents when they are put together. They are written as HTML for the rule and read again, which
gives that value back. So the visit decides as the recursion does. -/

/-- What is written in an element with nothing but a text is read back, unless it is raw. -/
theorem decodeEntities_inner (raw : Bool) (content : String) :
    decodeEntities (Node.writeText raw content) =
      if raw then decodeEntities content else content := by
  cases raw with
  | true => rfl
  | false => exact decodeEntities_writeText content

/-- A visit decides on an element as the recursion does, from the text that is in it. -/
theorem toOption_replacement? (declarative : c.rules.IsDeclarative) {e : NodeId} {content : String}
    (inner : u.innerHtml e = Node.writeText (Node.isRawTextTag (u.tagName e)) content) :
    (c.replacement? ⟨u, e⟩).toOption.map (·.getD content) =
      c.evaluateElement (u.node e) content := by
  have hlabel : NodeRef.label ⟨u, e⟩ = (NodeRef.alone (u.node e)).label := rfl
  have hinner : NodeRef.innerHtml ⟨u, e⟩ =
      Node.writeText (Node.isRawTextTag (u.node e).label.name) content := inner
  have htag : NodeRef.tagName ⟨u, e⟩ = (u.node e).label.name := rfl
  rw [replacement?, evaluateElement, hinner, htag]
  split
  · rfl
  · rw [RuleSet.find?_congr hlabel declarative]
    rcases hfind : c.rules.find? (.alone (u.node e)) c.options with _ | ⟨key, rule⟩
    · rfl
    · have hrule := declarative _ (List.mem_of_find?_eq_some hfind)
      dsimp only
      rw [decodeEntities_inner, Rule.render_congr hlabel hrule]
      cases rule.render _ (.alone (u.node e)) c.options <;> rfl

section Content

variable {done rest : List NodeId} {rep : NodeId → List NodeId} {p : NodeId}
variable (h : N.Clean) (split : (N.levelOrder root).reverse = done ++ rest)
variable (pr : Progress N done rest rep u)
variable (valued : ∀ x ∈ done, c.evaluate (N.markup x) = some (u.values (rep x)))
include h split pr valued

/-- When all below a node is visited, its children have the value of its content. -/
theorem evaluateAll_children (passed : Passed N done rep p) :
    c.evaluateAll ((N.children p).map N.markup) = some (u.values (u.children p)) := by
  rw [pr.children_eq passed.index_lt passed.stands]
  refine evaluateAll_eq_values fun x hx => ?_
  have hbelow := h.wellFormed.forest.below_of_mem hx
  have hroot := passed.below_root hbelow
  rcases h.cases_below hroot with helement | ⟨htext, -⟩
  · exact valued x (passed.mem_done x (h.mem_levelOrder.2 ⟨hroot, helement⟩) hbelow)
  -- a text is never visited, so it stands where it stood
  · have hdone : x ∉ done := by
      intro hdone
      have horder : x ∈ N.levelOrder root := by
        rw [← List.mem_reverse, split]
        exact List.mem_append_left rest hdone
      have helement := (h.mem_levelOrder.1 horder).2
      rw [Tree.isElement, htext] at helement
      cases helement
    rw [evaluate_of_text h.wellFormed.forest htext, pr.rep_eq hdone, Tree.values_singleton,
      Tree.value, Tree.value, pr.node_eq hbelow.index_lt]

end Content

section Visit

variable {done rest : List NodeId} {rep : NodeId → List NodeId} {e : NodeId}
variable (h : N.Clean) (policy : c.options.unmatched = .unwrap)
variable (declarative : c.rules.IsDeclarative)
include h policy declarative

/-- The value of an element, by the state in which it is visited. -/
theorem Run.evaluate_of_visit (split : (N.levelOrder root).reverse = done ++ e :: rest)
    (r : Run c N done rep u)
    (valued : ∀ x ∈ done, c.evaluate (N.markup x) = some (u.values (rep x))) :
    c.evaluate (N.markup e) =
      (c.replacement? ⟨u, e⟩).toOption.map (·.getD (u.values (u.children e))) := by
  have hforest := h.wellFormed.forest
  have pr := r.progress hforest split
  have passed := pr.passed hforest split
  have content := evaluateAll_children h split pr valued passed
  have texts : ∀ x ∈ u.children e, u.label x = .text := fun x hx =>
    r.label_of_child h split passed policy hx
  have helement := Tree.isElement_of_mem_levelOrder hforest
    (Tree.mem_levelOrder_of_split split List.mem_cons_self)
  rw [evaluate_of_element hforest helement, content, Option.bind_some, ← pr.node_eq passed.index_lt]
  exact (toOption_replacement? declarative (Tree.innerHtml_of_texts pr.forest texts)).symm

/-- **The values of a run**: what stands where a visited element stood has the value of the element.
By induction on the run: the visit puts there what the recursion makes of the children, and what was
put there does not change any more. -/
theorem Run.evaluate_eq (r : Run c N done rep u) :
    ∀ {rest : List NodeId}, (N.levelOrder root).reverse = done ++ rest → ∀ x ∈ done,
      c.evaluate (N.markup x) = some (u.values (rep x)) := by
  induction r with
  | start =>
    intro rest _ x hx
    cases hx
  | @visit done rep t t' e ys run _ o ih =>
    intro rest split x hx
    rw [List.append_assoc, List.singleton_append] at split
    have hforest := h.wellFormed.forest
    have pr := run.progress hforest split
    have valued := ih split
    rcases eq_or_ne x e with rfl | hne
    -- the visit of `x` has put there what the recursion makes of it
    · rw [Function.update_self, run.evaluate_of_visit h policy declarative split valued]
      cases o with
      | replaced hreplacement =>
        rw [hreplacement, Tree.values_singleton, Tree.value, Tree.node_fresh]
        rfl
      | unwrapped hreplacement =>
        rw [hreplacement, Tree.values_congr fun y _ => Tree.node_unwrap t x y]
        rfl
      | kept _ hkeep =>
        rw [policy] at hkeep
        cases hkeep
    -- what stood there before the visit of `e` holds what it held
    · rw [Function.update_of_ne hne]
      rw [List.mem_append, List.mem_singleton, or_iff_left hne] at hx
      have hbelow := Tree.below_of_mem_levelOrder hforest
        (Tree.mem_levelOrder_of_split split (List.mem_cons_of_mem e hx))
      rw [valued x hx, Tree.values_congr fun y hy => o.node_eq (pr.rep_lt hbelow.index_lt hy)]

end Visit

/-- A failure below a node is a failure of its content. -/
theorem evaluateAll_eq_none_of_below (h : N.Clean) {p x : NodeId} (hx : N.Below p x)
    (hnone : c.evaluate (N.markup x) = none) :
    (∀ {y}, N.Below p y → N.Below root y) →
      c.evaluateAll ((N.children p).map N.markup) = none := by
  have hforest := h.wellFormed.forest
  induction hx using Relation.TransGen.head_induction_on with
  | single hpx =>
    intro _
    exact evaluateAll_eq_none (List.mem_map_of_mem (hforest.mem_iff.2 hpx)) hnone
  | @head p q hpq hqx ih =>
    intro hroot
    have hbelow : N.Below p q := Arena.below_of_parent hpq
    have content := ih fun hy => hroot (hbelow.trans hy)
    have helement : N.isElement q = true := by
      rcases h.cases_below (hroot hbelow) with helement | ⟨-, hnil⟩
      · exact helement
      · rw [hnil] at content
        cases content
    refine evaluateAll_eq_none (List.mem_map_of_mem (hforest.mem_iff.2 hpq)) ?_
    rw [evaluate_of_element hforest helement, content]
    rfl

/-- **A conversion is a recursion**: its Markdown is the value of what is in the normalized
document, in its final form, and there is none just when some rule fails in the recursion. -/
theorem toOption_convertTree (c : Converter) {t : Tree} (h : t.WellFormed)
    (bare : t.LeavesBare root) (policy : c.options.unmatched = .unwrap)
    (declarative : c.rules.IsDeclarative) :
    (c.convertTree t).toOption =
      (c.evaluateAll ((t.normalize c.options).markup root).children).map
        (Text.mapChars Text.tidy) := by
  have clean := Tree.clean_normalize h bare c.options
  have hforest := clean.wellFormed.forest
  rw [convertTree, Tree.markup_eq hforest, Rose.children]
  cases hvisit : c.visitAll (t.normalize c.options)
      ((t.normalize c.options).levelOrder root).reverse with
  | ok u =>
    obtain ⟨rep, r, pr, passed⟩ := exists_run_to_end clean hvisit
    have split := (List.append_nil ((t.normalize c.options).levelOrder root).reverse).symm
    have valued := r.evaluate_eq clean policy declarative split
    rw [evaluateAll_children clean split pr valued passed]
    exact congrArg some (finish_eq clean hvisit policy)
  | error error =>
    obtain ⟨done, e, rest, u, split, hdone, hfail⟩ := exists_failure hvisit
    obtain ⟨rep, r⟩ := exists_run hforest _ split hdone
    have pr := r.progress hforest split
    have hattached := pr.attached hforest split
    have valued := r.evaluate_eq clean policy declarative split
    -- the first visit to fail is of an element that stands, and fails in its rule
    have hnone : c.evaluate ((t.normalize c.options).markup e) = none := by
      rw [r.evaluate_of_visit clean policy declarative split valued]
      rw [visit, if_neg (by simpa using hattached)] at hfail
      cases hreplacement : c.replacement? ⟨u, e⟩ with
      | ok markdown =>
        rw [hreplacement] at hfail
        cases hfail
      | error error => rfl
    rw [evaluateAll_eq_none_of_below clean (Progress.below_root hforest split) hnone id]
    rfl

/-- A sentence with a comparison and an emphasis, a script, and a span with a space in it. -/
def note : Tree :=
  Tree.empty.run
    [.createElement "body" [], .append root ⟨1⟩, .createElement "p" [], .append ⟨1⟩ ⟨2⟩,
     .createText "1 < 2 ", .append ⟨2⟩ ⟨3⟩, .createElement "em" [], .append ⟨2⟩ ⟨4⟩,
     .createText "really", .append ⟨4⟩ ⟨5⟩, .createElement "script" [], .append ⟨1⟩ ⟨6⟩,
     .createText "x &amp; y", .append ⟨6⟩ ⟨7⟩, .createElement "span" [], .append ⟨1⟩ ⟨8⟩,
     .createText " ", .append ⟨8⟩ ⟨9⟩]

/-- Templates for three tags. -/
def noteRules : Converter where
  rules := ⟨[("p", .ofTemplate (.tagName "p") "{content}\n\n"),
    ("em", .ofTemplate (.tagName "em") "*{content}*"),
    ("code", .ofTemplate (.tagNames ["code", "script"]) "{tag}({content})")]⟩
  options := { voidElements := .empty, blockElements := .empty, preformatted := .empty }

theorem toOption_convertTree_note :
    note.WellFormed ∧ note.LeavesBare root ∧ noteRules.rules.IsDeclarative ∧
      (noteRules.convertTree note).toOption = some "1 < 2 *really*\n\nscript(x & y)" := by
  have h : note.WellFormed := Tree.WellFormed.run _ Tree.wellFormed_empty
    (Tree.allAllowed_of_areAllowed (by decide +kernel))
  have bare : note.LeavesBare root := Tree.leavesBare_of_forall_lt _ (by decide +kernel)
  have declarative : noteRules.rules.IsDeclarative := by
    intro entry hentry
    simp only [noteRules, List.mem_cons, List.not_mem_nil, or_false] at hentry
    rcases hentry with rfl | rfl | rfl <;> exact ⟨trivial, trivial⟩
  refine ⟨h, bare, declarative, ?_⟩
  rw [toOption_convertTree noteRules h bare rfl declarative]
  decide +kernel

end Converter

end Tagdown
