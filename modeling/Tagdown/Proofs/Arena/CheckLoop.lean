import Mathlib.Logic.Function.Iterate
import Tagdown.Proofs.Arena.Consistency

/-!
# The check of the links, step by step

`isConsistent` is a recursion with bounds. The check itself has none: it is two loops, one in the
other, of which the inner one follows a chain of siblings until it ends or a link in it disagrees.
`CheckState` is what the loops hold, and `checkStep` is what they do next.

From any state of a visit the loops come to an answer (`Visit.exists_steps`), whatever the links
are: a chain that is followed has no node twice, and so has the list of nodes that were seen. The
answer is that of `isConsistent`, so its bounds cut nothing off, and it is `true` just if what is
met from the first node on is a tree (`isConsistent_decides`).
-/

namespace Tagdown.Arena

variable {α : Type} {a : Arena α} {start id p : NodeId} {pending seen : List NodeId}

/-- What the check is about to do. Of the nodes that wait, the last one that was added is taken
first. -/
inductive CheckState where
  /-- take the next one of the nodes that wait -/
  | visiting (pending seen : List NodeId)
  /-- look at `current`, which the links lead to after `previous` in the chain of `id` -/
  | following (id : NodeId) (previous current : Option NodeId) (pending seen : List NodeId)
  | answered (answer : Bool)
deriving DecidableEq

/-- The next step of the check. -/
def checkStep (a : Arena α) : CheckState → CheckState
  | .visiting [] _ => .answered true
  | .visiting (id :: pending) seen =>
    if id ∈ seen then .answered false
    else .following id none (a.firstChild id) pending (id :: seen)
  | .following id previous none pending seen =>
    if a.lastChild id = previous then .visiting pending seen else .answered false
  | .following id previous (some current) pending seen =>
    if a.parent current = some id ∧ a.previousSibling current = previous then
      .following id (some current) (a.nextSibling current) (current :: pending) seen
    else .answered false
  | .answered answer => .answered answer

/-- Some number of steps leads from one state to another. -/
def Steps (a : Arena α) (s s' : CheckState) : Prop :=
  ∃ n, a.checkStep^[n] s = s'

namespace Steps

variable {s s' s'' : CheckState}

theorem single (h : a.checkStep s = s') : a.Steps s s' :=
  ⟨1, h⟩

theorem trans (h : a.Steps s s') (h' : a.Steps s' s'') : a.Steps s s'' := by
  obtain ⟨n, rfl⟩ := h
  obtain ⟨m, rfl⟩ := h'
  exact ⟨m + n, Function.iterate_add_apply _ m n s⟩

theorem head (h : a.checkStep s = s') (h' : a.Steps s' s'') : a.Steps s s'' :=
  (single h).trans h'

end Steps

/-- What comes after the chain of a node: its children wait for their turn, if it was accepted. -/
def afterChain (pending seen : List NodeId) : Option (List NodeId) → CheckState
  | some kids => .visiting (kids.reverse ++ pending) seen
  | none => .answered false

/-- **The inner loop ends**: it comes to the end of the chain, or to a link that disagrees, before
it has met more nodes than there are. The induction is on the rounds that are left, for any part of
the chain that was met before. -/
theorem Agrees.steps :
    ∀ {fuel : Nat} {l pending : List NodeId} {next : Option NodeId}, a.Agrees p l →
      a.size ≤ fuel + l.length →
      a.Steps (.following p l.getLast? next pending seen)
        (afterChain pending seen (a.checkedChain p fuel l.getLast? next)) := by
  intro fuel
  induction fuel with
  | zero =>
    intro l pending next h hfuel
    cases next with
    | none =>
      refine .single ?_
      rw [checkStep, checkedChain]
      split <;> rfl
    | some current =>
      refine .single (if_neg fun hcurrent => ?_)
      -- the chain would have more nodes than there are
      have := (h.concat hcurrent.1 hcurrent.2).length_le
      rw [List.length_append, List.length_singleton] at this
      omega
  | succ fuel ih =>
    intro l pending next h hfuel
    cases next with
    | none =>
      refine .single ?_
      rw [checkStep, checkedChain]
      split <;> rfl
    | some current =>
      rw [checkedChain]
      split
      · rename_i hcurrent
        have later : a.Steps (.following p (l ++ [current]).getLast? (a.nextSibling current)
            (current :: pending) seen) _ :=
          ih (h.concat hcurrent.1 hcurrent.2) (by
            rw [List.length_append, List.length_singleton]
            omega)
        rw [List.getLast?_concat] at later
        refine .head (if_pos hcurrent) ?_
        cases hrest : a.checkedChain p fuel (some current) (a.nextSibling current) with
        | none =>
          rw [hrest] at later
          exact later
        | some rest =>
          rw [hrest, afterChain] at later
          rw [Option.map_some, afterChain, List.reverse_cons, List.append_assoc,
            List.singleton_append]
          exact later
      · rename_i hcurrent
        exact .single (if_neg hcurrent)

/-- One round of the outer loop. -/
theorem steps_round (hid : id ∉ seen) (pending : List NodeId) :
    a.Steps (.visiting (id :: pending) seen)
      (afterChain pending (id :: seen) (a.checkedChildren id)) := by
  refine .head (if_neg hid) ?_
  exact (agrees_nil a id).steps (by simp)

/-- **The outer loop ends**, since each round marks one node more, and with an answer that tells
whether what is met is a tree. The induction is on the nodes that are left to be marked. -/
theorem Visit.exists_steps (hstart : start.index < a.size) :
    ∀ (left : Nat) (pending seen : List NodeId), a.Visit start pending seen →
      a.size < left + seen.length →
      ∃ answer, a.Steps (.visiting pending seen) (.answered answer) ∧
        (answer = true ↔ a.IsTreeFrom start) := by
  intro left
  induction left with
  | zero =>
    -- more nodes would have been seen than there are
    intro pending seen v hleft
    have := v.length_seen_le hstart
    omega
  | succ left ih =>
    intro pending seen v hleft
    cases pending with
    | nil => exact ⟨true, .single rfl, iff_of_true rfl v.isTreeFrom⟩
    | cons id pending =>
      by_cases hid : id ∈ seen
      · exact ⟨false, .single (if_pos hid),
          iff_of_false Bool.false_ne_true fun h => v.not_mem_seen h hid⟩
      have round := steps_round (a := a) hid pending
      cases hkids : a.checkedChildren id with
      | none =>
        rw [hkids] at round
        refine ⟨false, round, iff_of_false Bool.false_ne_true fun h => ?_⟩
        obtain ⟨kids, hkids'⟩ := v.exists_checkedChildren h
        rw [hkids] at hkids'
        cases hkids'
      | some kids =>
        rw [hkids] at round
        -- the last child that was added has its turn before the others
        have v' := (v.step hid (checkedChildren_eq_some_iff.1 hkids)).of_perm
          (kids.reverse_perm.append_right pending)
        obtain ⟨answer, later, hanswer⟩ := ih _ _ v' (by
          rw [List.length_cons]
          omega)
        exact ⟨answer, round.trans later, hanswer⟩

/-- **The check decides.** For links of any kind, chains that come back to themselves and children
that are shared among them, the loops end, and they end with the answer that `isConsistent` gives.
It is `true` just if the nodes that are met from the first one on form a tree: the children of each
are a chain without repetition, from the first child to the last one, of nodes that have it for
their parent and one another for their siblings, and the first node is in none of these chains.
Where the first node has no sibling after it, as in every document, the nodes that are met are all
that the links to first children and next siblings lead to. -/
theorem isConsistent_decides (hsize : 0 < a.size) :
    a.Steps (.visiting [⟨0⟩] []) (.answered a.isConsistent) ∧
      (a.isConsistent = true ↔ a.IsTreeFrom ⟨0⟩) ∧
      (a.nextSibling ⟨0⟩ = none →
        ∀ x, a.Meets ⟨0⟩ x ↔ Relation.ReflTransGen a.Leads ⟨0⟩ x) := by
  have decides := isConsistent_eq_true_iff hsize
  obtain ⟨answer, steps, hanswer⟩ :=
    Visit.exists_steps hsize (a.size + 1) _ _ (Visit.start_visit a ⟨0⟩) (by simp)
  have same : answer = a.isConsistent := Bool.eq_iff_iff.2 (hanswer.trans decides.symm)
  exact ⟨same ▸ steps, decides, fun hnext _ => meets_iff_leads hnext⟩

/-- Three nodes below the first one, of which the last leads on to `after`, and a node elsewhere
that is its own parent and its own child. -/
def siblingsUpTo (after : Option NodeId) : Arena Unit :=
  ⟨#[⟨(), none, some ⟨1⟩, some ⟨3⟩, none, none⟩,
     ⟨(), some ⟨0⟩, none, none, none, some ⟨2⟩⟩,
     ⟨(), some ⟨0⟩, none, none, some ⟨1⟩, some ⟨3⟩⟩,
     ⟨(), some ⟨0⟩, none, none, some ⟨2⟩, after⟩,
     ⟨(), some ⟨4⟩, some ⟨4⟩, some ⟨4⟩, none, none⟩]⟩

/-- A chain that ends, and one that comes back to a node in it. -/
theorem isConsistent_decides_siblingsUpTo :
    (0 < (siblingsUpTo none).size ∧ (siblingsUpTo none).IsTreeFrom ⟨0⟩ ∧
      (siblingsUpTo none).Steps (.visiting [⟨0⟩] []) (.answered true)) ∧
    (0 < (siblingsUpTo (some ⟨2⟩)).size ∧ ¬ (siblingsUpTo (some ⟨2⟩)).IsTreeFrom ⟨0⟩ ∧
      (siblingsUpTo (some ⟨2⟩)).Steps (.visiting [⟨0⟩] []) (.answered false)) := by
  constructor
  · have hsize : 0 < (siblingsUpTo none).size := by decide
    have yes : (siblingsUpTo none).isConsistent = true := by decide
    obtain ⟨steps, decides, -⟩ := isConsistent_decides hsize
    exact ⟨hsize, decides.1 yes, yes ▸ steps⟩
  · have hsize : 0 < (siblingsUpTo (some ⟨2⟩)).size := by decide
    have no : (siblingsUpTo (some ⟨2⟩)).isConsistent = false := by decide
    obtain ⟨steps, decides, -⟩ := isConsistent_decides hsize
    exact ⟨hsize, fun h => Bool.false_ne_true (no.symm.trans (decides.2 h)), no ▸ steps⟩

/-- Two nodes that are children of each other. The first node of the arena was appended to one of
them before the other was, and so it has a sibling and no children. -/
def ringed : Arena Unit :=
  ⟨#[⟨(), some ⟨1⟩, none, none, none, some ⟨2⟩⟩,
     ⟨(), some ⟨2⟩, some ⟨0⟩, some ⟨2⟩, none, none⟩,
     ⟨(), some ⟨1⟩, some ⟨1⟩, some ⟨1⟩, some ⟨0⟩, none⟩]⟩

/-- The check does not look at the siblings of the first node, although links lead to them: here
they lead to a node that has the first one among its children. -/
theorem not_isConsistent_iff_leads_ringed :
    ¬ (ringed.isConsistent = true ↔
      ∀ p, Relation.ReflTransGen ringed.Leads ⟨0⟩ p →
        ∃ kids, ringed.ChildChain p kids ∧ (⟨0⟩ : NodeId) ∉ kids) := by
  intro h
  have yes : ringed.isConsistent = true := by decide
  have sibling : ringed.Leads ⟨0⟩ ⟨2⟩ := Or.inr (by decide)
  have child : ringed.Leads ⟨2⟩ ⟨1⟩ := Or.inl (by decide)
  obtain ⟨kids, hkids, hroot⟩ := h.1 yes ⟨1⟩ (.tail (.single sibling) child)
  have hfirst : some ⟨0⟩ = kids.head? := hkids.first
  exact hroot (List.mem_of_mem_head? hfirst.symm)

end Tagdown.Arena
