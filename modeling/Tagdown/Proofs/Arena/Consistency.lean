import Mathlib.Data.List.Induction
import Tagdown.Proofs.Arena.Forest
import Tagdown.Arena.Subtree

/-!
# What the check of the links finds out

`isConsistent` is for arenas of any links at all: a chain of siblings may come back to itself, and
two nodes may share a child. It answers `true` just if what is met from the first node on is a tree
(`isConsistent_eq_true_iff`). In a forest that is so (`IsForest.isConsistent_eq_true`).

The check looks at one chain of children at a time. It accepts a chain just if all links of it
agree (`checkedChildren_eq_some_iff`), and needs no list of visited nodes to see that a chain has
an end: a node that comes up again would have two different nodes before it (`Agrees.nodup`).

The visit of all chains marks what it has seen. What it keeps is that the nodes that wait and the
nodes that were seen are together the first one and the children of those seen, counted as often
as they stand in a chain (`Visit.perm`). So a node that comes up twice stands in two chains, or
twice in one, or is the first node, and in a tree there is no such node.
-/

namespace Tagdown.Arena

variable {α : Type} {a : Arena α} {start id p x y : NodeId} {l r kids pending seen : List NodeId}

/-! ## One chain

The check walks from the first child along the links to the next sibling, and asks of every node
for its parent and its previous sibling. A walk of this kind cannot go round: the first node to
come up again would have to name two different nodes before it. -/

/-- Each node of the list names `p` as its parent, and the node right before it as its previous
sibling. -/
def Agrees (a : Arena α) (p : NodeId) (l : List NodeId) : Prop :=
  ∀ before x after, l = before ++ x :: after →
    a.parent x = some p ∧ a.previousSibling x = before.getLast?

theorem agrees_nil (a : Arena α) (p : NodeId) : a.Agrees p [] := by
  intro before x after h
  simp at h

/-- The links of a part at the front agree among themselves. -/
theorem Agrees.of_append (h : a.Agrees p (l ++ r)) : a.Agrees p l := by
  intro before x after hl
  refine h before x (after ++ r) ?_
  rw [hl, List.append_assoc, List.cons_append]

/-- One more node agrees if it names the parent and the last node before it. -/
theorem Agrees.concat (h : a.Agrees p l) (hparent : a.parent x = some p)
    (hprevious : a.previousSibling x = l.getLast?) : a.Agrees p (l ++ [x]) := by
  intro before y after hl
  rcases List.eq_nil_or_concat after with rfl | ⟨after, z, rfl⟩
  · obtain ⟨rfl, hxy⟩ := List.append_inj' hl rfl
    obtain rfl := (List.cons.inj hxy).1
    exact ⟨hparent, hprevious⟩
  · rw [List.concat_eq_append, ← List.cons_append, ← List.append_assoc] at hl
    exact h before y after (List.append_inj' hl rfl).1

/-- **No node comes up again**: it would have two different nodes before it. So a walk along the
links that are checked cannot go round, and it ends within the arena. -/
theorem Agrees.nodup (h : a.Agrees p l) : l.Nodup := by
  induction l using List.reverseRecOn with
  | nil => exact List.nodup_nil
  | append_singleton l x ih =>
    have hl := ih h.of_append
    refine List.nodup_append'.2 ⟨hl, List.nodup_singleton x, ?_⟩
    rw [List.disjoint_singleton]
    intro hx
    obtain ⟨before, after, rfl⟩ := List.append_of_mem hx
    -- the last node of the list stands before `x`, and also at or after it
    have hlast : (before ++ x :: after).getLast? = before.getLast? :=
      (h _ x [] rfl).2.symm.trans (h before x (after ++ [x]) (by simp)).2
    obtain ⟨y, hy⟩ : ∃ y, (x :: after).getLast? = some y :=
      Option.isSome_iff_exists.1 (by simp)
    rw [List.getLast?_append, hy, Option.some_or] at hlast
    exact List.disjoint_of_nodup_append hl (List.mem_of_getLast? hlast.symm)
      (List.mem_of_getLast? hy)

/-- A list without repetition is no longer than the arena. -/
theorem Agrees.length_le (h : a.Agrees p l) : l.length ≤ a.size := by
  refine length_le_size h.nodup fun x hx => ?_
  obtain ⟨before, after, rfl⟩ := List.append_of_mem hx
  exact index_lt_of_parent (h before x after rfl).1

/-- What the check collects after `l` goes on as `l` does, along the links to the next sibling and
up to the last child. -/
theorem agrees_of_checkedChain :
    ∀ {fuel : Nat} {l r : List NodeId} {next : Option NodeId}, a.Agrees p l →
      a.checkedChain p fuel l.getLast? next = some r →
      a.Agrees p (l ++ r) ∧ a.lastChild p = (l ++ r).getLast? ∧ next = r.head? ∧
        ∀ before x after, r = before ++ x :: after → a.nextSibling x = after.head? := by
  intro fuel
  -- the links to the previous sibling are checked on the way, those to the next one are followed
  induction fuel with
  | zero =>
    intro l r next h hr
    cases next with
    | none =>
      rw [checkedChain] at hr
      split at hr
      · rename_i hlast
        obtain rfl := Option.some.inj hr
        rw [List.append_nil]
        exact ⟨h, hlast, rfl, by simp⟩
      · cases hr
    | some current => cases hr
  | succ fuel ih =>
    intro l r next h hr
    cases next with
    | none =>
      rw [checkedChain] at hr
      split at hr
      · rename_i hlast
        obtain rfl := Option.some.inj hr
        rw [List.append_nil]
        exact ⟨h, hlast, rfl, by simp⟩
      · cases hr
    | some current =>
      rw [checkedChain] at hr
      split at hr
      · rename_i hcurrent
        obtain ⟨r, hrest, rfl⟩ := Option.map_eq_some_iff.1 hr
        rw [← List.getLast?_concat (l := l)] at hrest
        obtain ⟨hagrees, hlast, hnext, hlinks⟩ := ih (h.concat hcurrent.1 hcurrent.2) hrest
        rw [List.append_assoc, List.singleton_append] at hagrees hlast
        refine ⟨hagrees, hlast, rfl, ?_⟩
        -- the link of the child at hand, and the links of those after it
        rintro (_ | ⟨y, before⟩) x after hsplit
        · obtain ⟨rfl, rfl⟩ := List.cons.inj hsplit
          exact hnext
        · exact hlinks before x after (List.cons.inj hsplit).2
      · cases hr

/-- The walk over a chain comes to its end: from any place in it, what is left is found. -/
theorem ChildChain.checkedChain_eq (h : a.ChildChain p kids) :
    ∀ (fuel : Nat) (l r : List NodeId), kids = l ++ r → r.length ≤ fuel →
      a.checkedChain p fuel l.getLast? r.head? = some r := by
  intro fuel
  induction fuel with
  | zero =>
    intro l r hkids hlen
    obtain rfl := List.length_eq_zero_iff.1 (Nat.le_zero.1 hlen)
    rw [List.append_nil] at hkids
    rw [List.head?_nil, checkedChain, h.last, hkids, if_pos rfl]
  | succ n ih =>
    intro l r hkids hlen
    cases r with
    | nil =>
      rw [List.append_nil] at hkids
      rw [List.head?_nil, checkedChain, h.last, hkids, if_pos rfl]
    | cons x r =>
      obtain ⟨hprevious, hnext⟩ := h.siblings hkids
      have hparent : a.parent x = some p := h.parent x (by rw [hkids]; simp)
      -- the child passes the three tests, and the rest of the chain is walked from it
      have rest := ih (l ++ [x]) r (by simpa using hkids) (by simpa using hlen)
      rw [List.getLast?_concat] at rest
      rw [List.head?_cons, checkedChain, if_pos ⟨hparent, hprevious⟩, hnext, rest]
      rfl

/-- **A chain is accepted just if its links agree**, whatever the links of other nodes are. That the
answer is the list of the children is said in the same place, since it is what the visit goes on
with. -/
theorem checkedChildren_eq_some_iff : a.checkedChildren p = some kids ↔ a.ChildChain p kids := by
  constructor
  · intro h
    obtain ⟨hagrees, hlast, hfirst, hnext⟩ := agrees_of_checkedChain (agrees_nil a p) h
    rw [List.nil_append] at hagrees hlast
    refine ⟨hagrees.nodup, fun x hx => ?_, hfirst, hlast, fun {l x r} hkids => ?_⟩
    · obtain ⟨before, after, hkids⟩ := List.append_of_mem hx
      exact (hagrees before x after hkids).1
    · exact ⟨(hagrees l x r hkids).2, hnext l x r hkids⟩
  · intro h
    rw [checkedChildren, h.first]
    exact h.checkedChain_eq a.size [] kids rfl h.length_le

/-! ## What is met from a node on

What the check can come to is described by links to first children and next siblings alone, with
no use of parents, since these are what is to be checked. -/

/-- A link to the first child or to the next sibling leads from `x` to `y`. -/
def Leads (a : Arena α) (x y : NodeId) : Prop :=
  a.firstChild x = some y ∨ a.nextSibling x = some y

/-- `x` is `start`, or the links to first children and next siblings lead to it from the first child
of `start`. The siblings that `start` itself may have are beside it and not below it. -/
def Meets (a : Arena α) (start x : NodeId) : Prop :=
  x = start ∨ ∃ c, a.firstChild start = some c ∧ Relation.ReflTransGen a.Leads c x

/-- What is met from `start` on is a tree: the children of each node form a chain in which all
links agree, and `start` stands in none of these chains. -/
def IsTreeFrom (a : Arena α) (start : NodeId) : Prop :=
  ∀ p, a.Meets start p → ∃ kids, a.ChildChain p kids ∧ start ∉ kids

theorem meets_self (a : Arena α) (start : NodeId) : a.Meets start start :=
  Or.inl rfl

/-- Where `start` has no sibling after it, what is met is all that the links lead to. -/
theorem meets_iff_leads (h : a.nextSibling start = none) :
    a.Meets start x ↔ Relation.ReflTransGen a.Leads start x := by
  rw [Relation.ReflTransGen.cases_head_iff, Meets, eq_comm]
  refine or_congr_right (exists_congr fun c => and_congr_left fun _ => ?_)
  rw [Leads, h, or_iff_left nofun]

/-- From a child on, the links to the next sibling lead to all children after it. -/
theorem ChildChain.leads (h : a.ChildChain p kids) :
    ∀ (r l : List NodeId) (c : NodeId), kids = l ++ c :: r →
      ∀ x ∈ c :: r, Relation.ReflTransGen a.Leads c x := by
  intro r
  induction r with
  | nil =>
    intro l c _ x hx
    rw [List.mem_singleton.1 hx]
  | cons d r ih =>
    intro l c hkids x hx
    rcases List.mem_cons.1 hx with rfl | hx
    · exact Relation.ReflTransGen.refl
    · have hnext : a.nextSibling c = some d := (h.siblings hkids).2
      exact Relation.ReflTransGen.head (Or.inr hnext) (ih (l ++ [c]) d (by simpa using hkids) x hx)

/-- With a node all its children are met. -/
theorem Meets.child (h : a.Meets start p) (hkids : a.ChildChain p kids) (hx : x ∈ kids) :
    a.Meets start x := by
  obtain ⟨c, r, rfl⟩ := List.exists_cons_of_ne_nil (List.ne_nil_of_mem hx)
  have hcx := hkids.leads r [] c rfl x hx
  rcases h with rfl | ⟨b, hb, hbp⟩
  · exact Or.inr ⟨c, hkids.first, hcx⟩
  · exact Or.inr ⟨b, hb, (hbp.tail (Or.inl hkids.first)).trans hcx⟩

/-- What the first child of a node and the siblings of its children are found in has all that is
met. -/
theorem Meets.mem {nodes : List NodeId} (h : a.Meets start x) (hstart : start ∈ nodes)
    (chain : ∀ p ∈ nodes, ∃ kids, a.ChildChain p kids ∧ kids ⊆ nodes) : x ∈ nodes := by
  -- all that is met after `start` stands in the chain of a node that was met before
  have child {p c : NodeId} (hp : p ∈ nodes) (hc : a.firstChild p = some c) :
      ∃ q ∈ nodes, ∃ kids, a.ChildChain q kids ∧ kids ⊆ nodes ∧ c ∈ kids := by
    obtain ⟨kids, hkids, hsub⟩ := chain p hp
    exact ⟨p, hp, kids, hkids, hsub, List.mem_of_mem_head? (hkids.first ▸ hc)⟩
  rcases h with rfl | ⟨c, hc, hcx⟩
  · exact hstart
  have : ∃ q ∈ nodes, ∃ kids, a.ChildChain q kids ∧ kids ⊆ nodes ∧ x ∈ kids := by
    induction hcx with
    | refl => exact child hstart hc
    | tail _ hyx ih =>
      obtain ⟨q, hq, kids, hkids, hsub, hy⟩ := ih
      rcases hyx with hfirst | hnext
      · exact child (hsub hy) hfirst
      · obtain ⟨l, r, rfl⟩ := List.append_of_mem hy
        rw [(hkids.siblings rfl).2] at hnext
        exact ⟨q, hq, _, hkids, hsub, by simp [List.mem_of_mem_head? hnext]⟩
  obtain ⟨q, -, kids, -, hsub, hx⟩ := this
  exact hsub hx

/-! ## The visit

The visit keeps a list of nodes that wait and one of nodes that were seen. Both are told as a
permutation: together they are the first node and all children of those seen. When nothing waits,
the nodes that were seen are all that is met, each once. -/

/-- A visit from `start` on: `pending` wait for their turn, and `seen` had it. -/
structure Visit (a : Arena α) (start : NodeId) (pending seen : List NodeId) : Prop where
  seen_nodup : seen.Nodup
  meets : ∀ x ∈ pending ++ seen, a.Meets start x
  chain : ∀ p ∈ seen, a.ChildChain p (a.children p)
  /-- whatever was reached is `start`, or stands in the chain of a node that had its turn -/
  perm : (pending ++ seen).Perm (start :: seen.flatMap a.children)

/-- Different nodes of a tree have different children, none of which is `start`. -/
theorem IsTreeFrom.nodup (h : a.IsTreeFrom start) (nodup : seen.Nodup)
    (meets : ∀ x ∈ seen, a.Meets start x) : (start :: seen.flatMap a.children).Nodup := by
  have chains : ∀ p ∈ seen, a.ChildChain p (a.children p) ∧ start ∉ a.children p := by
    intro p hp
    obtain ⟨kids, hkids, hstart⟩ := h p (meets p hp)
    rw [hkids.children_eq]
    exact ⟨hkids, hstart⟩
  rw [List.nodup_cons, List.nodup_flatMap, List.mem_flatMap]
  refine ⟨fun ⟨p, hp, hstart⟩ => (chains p hp).2 hstart, fun p hp => (chains p hp).1.nodup, ?_⟩
  refine nodup.imp_of_mem fun {p q} hp hq hne x hxp hxq => hne ?_
  have hparent := (chains p hp).1.parent x hxp
  exact Option.some.inj (hparent.symm.trans ((chains q hq).1.parent x hxq))

namespace Visit

/-- At the beginning the first node waits and nothing was seen. -/
theorem start_visit (a : Arena α) (start : NodeId) : a.Visit start [start] [] where
  seen_nodup := List.nodup_nil
  meets := by simp [meets_self]
  chain := by simp
  perm := by simp

/-- In which order the nodes wait does not matter. -/
theorem of_perm {pending' : List NodeId} (v : a.Visit start pending seen)
    (h : pending'.Perm pending) : a.Visit start pending' seen where
  seen_nodup := v.seen_nodup
  meets x hx := v.meets x ((h.append_right seen).mem_iff.1 hx)
  chain := v.chain
  perm := (h.append_right seen).trans v.perm

/-- One round of the visit. -/
theorem step (v : a.Visit start (id :: pending) seen) (hid : id ∉ seen)
    (hkids : a.ChildChain id kids) : a.Visit start (kids ++ pending) (id :: seen) where
  seen_nodup := List.nodup_cons.2 ⟨hid, v.seen_nodup⟩
  meets := by
    have hmeets := v.meets id (by simp)
    intro x hx
    rw [List.append_assoc, List.mem_append] at hx
    rcases hx with hx | hx
    · exact hmeets.child hkids hx
    · exact v.meets x (List.perm_middle.mem_iff.1 hx)
  chain := by
    intro p hp
    rcases List.mem_cons.1 hp with rfl | hp
    · rw [hkids.children_eq]
      exact hkids
    · exact v.chain p hp
  perm := by
    -- the node has gone to the seen ones and its children have come to the pending ones
    rw [List.flatMap_cons, hkids.children_eq, List.append_assoc]
    calc
      List.Perm (kids ++ (pending ++ id :: seen)) (kids ++ (id :: pending ++ seen)) :=
        List.perm_middle.append_left kids
      List.Perm _ (kids ++ (start :: seen.flatMap a.children)) := v.perm.append_left kids
      List.Perm _ (start :: (kids ++ seen.flatMap a.children)) := List.perm_middle

/-- When nothing waits any more, all that is met was found to be a tree. -/
theorem isTreeFrom (v : a.Visit start [] seen) : a.IsTreeFrom start := by
  have hperm : seen.Perm (start :: seen.flatMap a.children) := v.perm
  have hnodup := hperm.nodup_iff.1 v.seen_nodup
  intro p hp
  have hseen : p ∈ seen := by
    refine hp.mem (hperm.mem_iff.2 List.mem_cons_self) fun q hq => ⟨_, v.chain q hq, fun x hx => ?_⟩
    exact hperm.mem_iff.2 (List.mem_cons_of_mem start (List.mem_flatMap.2 ⟨q, hq, hx⟩))
  refine ⟨_, v.chain p hseen, fun hstart => ?_⟩
  exact (List.nodup_cons.1 hnodup).1 (List.mem_flatMap.2 ⟨p, hseen, hstart⟩)

/-- In a tree no node has a second turn. -/
theorem not_mem_seen (v : a.Visit start (id :: pending) seen) (h : a.IsTreeFrom start) :
    id ∉ seen := by
  have hnodup := h.nodup v.seen_nodup fun x hx => v.meets x (List.mem_append_right _ hx)
  have := v.perm.nodup_iff.2 hnodup
  rw [List.cons_append, List.nodup_cons, List.mem_append, not_or] at this
  exact this.1.2

/-- In a tree the links below every node agree, so the check goes on. -/
theorem exists_checkedChildren (v : a.Visit start (id :: pending) seen) (h : a.IsTreeFrom start) :
    ∃ kids, a.checkedChildren id = some kids := by
  obtain ⟨kids, hkids, -⟩ := h id (v.meets id (by simp))
  exact ⟨kids, checkedChildren_eq_some_iff.2 hkids⟩

/-- No more nodes had their turn than there are. -/
theorem length_seen_le (v : a.Visit start pending seen) (hstart : start.index < a.size) :
    seen.length ≤ a.size := by
  refine length_le_size v.seen_nodup fun x hx => ?_
  rcases List.mem_cons.1 (v.perm.mem_iff.1 (List.mem_append_right pending hx)) with rfl | hx
  · exact hstart
  · obtain ⟨p, hp, hxp⟩ := List.mem_flatMap.1 hx
    exact index_lt_of_parent ((v.chain p hp).parent x hxp)

/-- **Every visit finds out** whether what is met is a tree, in one round for each node that was
not seen yet, and one to find a repetition. -/
theorem consistentFrom_eq_true_iff (hstart : start.index < a.size) :
    ∀ (fuel : Nat) (pending seen : List NodeId), a.Visit start pending seen →
      a.size < fuel + seen.length →
      (a.consistentFrom fuel pending seen = true ↔ a.IsTreeFrom start) := by
  intro fuel
  induction fuel with
  | zero =>
    -- more nodes would have been seen than there are
    intro pending seen v hfuel
    have := v.length_seen_le hstart
    omega
  | succ n ih =>
    intro pending seen v hfuel
    cases pending with
    | nil => exact iff_of_true rfl v.isTreeFrom
    | cons id pending =>
      rw [consistentFrom]
      split
      · rename_i hid
        exact iff_of_false Bool.false_ne_true fun h => v.not_mem_seen h hid
      rename_i hid
      cases hkids : a.checkedChildren id with
      | none =>
        refine iff_of_false Bool.false_ne_true fun h => ?_
        obtain ⟨kids, hkids'⟩ := v.exists_checkedChildren h
        rw [hkids] at hkids'
        cases hkids'
      | some kids =>
        refine ih _ _ (v.step hid (checkedChildren_eq_some_iff.1 hkids)) ?_
        rw [List.length_cons]
        omega

end Visit

/-- **The check finds out** whether what is met from the first node on is a tree. The bound on
the rounds is larger than the number of nodes, so it is never what ends the visit. -/
theorem isConsistent_eq_true_iff (hsize : 0 < a.size) :
    a.isConsistent = true ↔ a.IsTreeFrom ⟨0⟩ :=
  Visit.consistentFrom_eq_true_iff hsize _ _ _ (Visit.start_visit a ⟨0⟩) (by simp)

/-! ## Forests

In a forest the links to first children and next siblings lead down only, and so what the check
comes to is the tree below the node at which it begins. -/

/-- What is met in a forest stands below, since siblings stand below the same parent. -/
theorem IsForest.within_of_meets (h : a.IsForest) (hx : a.Meets start x) : a.Within start x := by
  rcases hx with rfl | ⟨c, hc, hcx⟩
  · exact a.within_self x
  refine Or.inr ?_
  have child {p c : NodeId} (hc : a.firstChild p = some c) : c ∈ a.children p :=
    List.mem_of_mem_head? ((h.first p).symm.trans hc)
  induction hcx with
  | refl => exact h.below_of_mem (child hc)
  | @tail y z _ hyz ih =>
    rcases hyz with hfirst | hnext
    · exact ih.trans (h.below_of_mem (child hfirst))
    · obtain ⟨q, l, r, hkids⟩ := h.of_nextSibling hnext
      have hy : a.parent y = some q := h.parent_of_split hkids
      have hz : z ∈ a.children q := by simp [hkids]
      obtain ⟨q', hq', hstart⟩ := ih.cases_parent
      obtain rfl := Option.some.inj (hy.symm.trans hq')
      rcases hstart with rfl | hstart
      · exact h.below_of_mem hz
      · exact hstart.trans (h.below_of_mem hz)

/-- Children of different nodes are different nodes, so in a forest nothing is met twice. -/
theorem IsForest.isTreeFrom (h : a.IsForest) (start : NodeId) : a.IsTreeFrom start := by
  intro p hp
  refine ⟨_, h.childChain p, fun hstart => ?_⟩
  exact h.ne_of_within hstart (h.within_of_meets hp) rfl

/-- **Forests are consistent.** What is met from the first node on is the tree below it, and in a
tree no node is met twice. -/
theorem IsForest.isConsistent_eq_true (h : a.IsForest) (hsize : 0 < a.size) :
    a.isConsistent = true :=
  (isConsistent_eq_true_iff hsize).2 (h.isTreeFrom ⟨0⟩)

end Tagdown.Arena
