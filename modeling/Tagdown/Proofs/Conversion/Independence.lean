import Tagdown.Proofs.Conversion.Run
import Tagdown.Proofs.Document.History
import Tagdown.Proofs.Document.Renaming
import Tagdown.Proofs.Normalize.Passes
import Tagdown.Proofs.Rule.Bundled

/-!
# The result depends on the document alone

Two documents that are the same up to the names of their nodes are converted in step. The visits
come to the same elements in the same order, and each does the same to both documents: it puts the
same text into the same place, or opens an element that has the same children, or fails with the
same error (`agree_visit`). What it leaves are again two documents that differ in names only, where
the names of the nodes that were there before have not changed. So whole runs agree
(`agree_visitAll`).

A rule that goes by more than the looks of an element could tell the documents apart, by a number of
a node for instance. The bundled rules and those that are given as data do not.
-/

namespace Tagdown

open Tagdown.Tree (root Renaming)

variable {N t u : Tree} {f : NodeId → NodeId} {S : Set NodeId} {e p : NodeId}

namespace Tree

namespace Renaming

/-- Where a child and what is below it is the same, the child looks the same to a rule. -/
theorem looksLike (r : Renaming f S t u) (hp : p ∈ S) (hinner : (t.label p).isLeaf = false)
    (he : e ∈ t.children p) (helement : t.isElement e = true) :
    NodeRef.LooksLike ⟨t, e⟩ ⟨u, f e⟩ := by
  have heS := r.child_mem hp hinner he
  have heinner := isLeaf_of_isElement helement
  obtain ⟨hprevious, hnext, -⟩ := r.siblings_eq hp hinner he
  constructor
  · exact (r.label_eq heS).symm
  · exact (r.innerHtml_eq heS heinner).symm
  · exact (r.textContent_eq heS heinner).symm
  · show ((t.parent e).map _).map _ = ((u.parent (f e)).map _).map _
    rw [r.left.mem_iff.1 he, r.right.mem_iff.1 (r.mem_children hp hinner he)]
    exact congrArg some (r.label_eq hp).symm
  · show ((t.previousSibling e).map _).isNone = ((u.previousSibling (f e)).map _).isNone
    rw [hprevious]
    cases t.previousSibling e <;> rfl
  · show ((t.nextSibling e).map _).isNone = ((u.nextSibling (f e)).map _).isNone
    rw [hnext]
    cases t.nextSibling e <;> rfl
  · exact (r.elementIndex_eq hp hinner he).symm

/-! ## The same edit of both documents

A node that an edit makes has a new name in either document. So the renaming is extended by one
pair at each visit, and stays as it was on the nodes that were there before. -/

/-- The node that is made next has no name yet. -/
theorem size_not_mem (r : Renaming f S t u) : (⟨t.size⟩ : NodeId) ∉ S :=
  fun h => Nat.lt_irrefl _ (r.index_lt h).1

/-- To give it one changes no other. -/
theorem update_of_mem (r : Renaming f S t u) {x : NodeId} (hx : x ∈ S) (n : NodeId) :
    Function.update f ⟨t.size⟩ n x = f x := by
  refine Function.update_of_ne ?_ _ _
  rintro rfl
  exact r.size_not_mem hx

theorem injOn_update (r : Renaming f S t u) :
    Set.InjOn (Function.update f ⟨t.size⟩ ⟨u.size⟩) (insert ⟨t.size⟩ S) := by
  refine (Set.injOn_insert r.size_not_mem).2 ⟨fun x hx y hy hxy => ?_, ?_⟩
  · rw [r.update_of_mem hx, r.update_of_mem hy] at hxy
    exact r.injOn hx hy hxy
  · rintro ⟨x, hx, hxy⟩
    rw [r.update_of_mem hx, Function.update_self] at hxy
    have hlt := (r.index_lt hx).2
    rw [hxy] at hlt
    exact Nat.lt_irrefl _ hlt

/-- A node that shows what is below it is not the new text. -/
theorem mem_of_inner (r : Renaming f S t u) {markdown : String} {q : NodeId}
    (hq : q ∈ insert (⟨t.size⟩ : NodeId) S)
    (hinner : (Tree.label ((t.createText markdown).1.replace e ⟨t.size⟩) q).isLeaf = false) :
    q ∈ S ∧ (t.label q).isLeaf = false := by
  rw [label, node_replace_fresh] at hinner
  rcases hq with rfl | hq
  · rw [if_pos rfl] at hinner
    cases hinner
  · rw [if_neg (Nat.ne_of_lt (r.index_lt hq).1)] at hinner
    exact ⟨hq, hinner⟩

section Edit

variable (r : Renaming f S t u) (he : e ∈ S) (attached : t.parent e ≠ none)
  (attached' : u.parent (f e) ≠ none)
include r he attached attached'

/-- Where the element stood, its children stand in both. -/
theorem unwrap (heinner : (t.label e).isLeaf = false) :
    Renaming f S (t.unwrap e) (u.unwrap (f e)) where
  left := r.left.unwrap e
  right := r.right.unwrap (f e)
  injOn := r.injOn
  index_lt := by
    intro x hx
    rw [Arena.size_unwrap, Arena.size_unwrap]
    exact r.index_lt hx
  label_eq := by
    intro x hx
    rw [label, label, node_unwrap, node_unwrap]
    exact r.label_eq hx
  value_eq := by
    intro x hx hleaf
    rw [label, node_unwrap] at hleaf
    rw [value, value, node_unwrap, node_unwrap]
    exact r.value_eq hx hleaf
  child_mem := by
    intro q x hq hinner hx
    rw [label, node_unwrap] at hinner
    rw [r.left.children_unwrap attached] at hx
    split at hx
    · cases hx
    -- a child after the visit was a child of `q`, or of the element and has moved up
    · rcases Arena.mem_splice.1 hx with ⟨hx, -⟩ | ⟨-, hx⟩
      · exact r.child_mem hq hinner hx
      · exact r.child_mem he heinner hx
  children_eq := by
    intro q hq hinner
    rw [label, node_unwrap] at hinner
    rw [r.left.children_unwrap attached, r.right.children_unwrap attached']
    -- the element has no children left, and in the list of its parent they are spliced in
    rcases eq_or_ne q e with rfl | hne
    · rw [if_pos rfl, if_pos rfl, List.map_nil]
    · have hne' : f q ≠ f e := fun h => hne (r.injOn hq he h)
      rw [if_neg hne, if_neg hne', r.children_eq hq hinner, r.children_eq he heinner,
        Arena.map_splice]
      exact fun y hy => r.injOn (r.child_mem hq hinner hy) he

/-- Where the element stood, a new text stands in both, and the one is the name of the other. -/
theorem replace (markdown : String) :
    Renaming (Function.update f ⟨t.size⟩ ⟨u.size⟩) (insert ⟨t.size⟩ S)
      ((t.createText markdown).1.replace e ⟨t.size⟩)
      ((u.createText markdown).1.replace (f e) ⟨u.size⟩) where
  left := Converter.isForest_replace_fresh r.left _ e
  right := Converter.isForest_replace_fresh r.right _ (f e)
  injOn := r.injOn_update
  index_lt := by
    intro x hx
    rw [Arena.size_replace, Arena.size_replace, createText, createText, Arena.size_push,
      Arena.size_push]
    -- of two kinds: the new text, and what was there before
    rcases hx with rfl | hx
    · rw [Function.update_self]
      exact ⟨Nat.lt_succ_self _, Nat.lt_succ_self _⟩
    · rw [r.update_of_mem hx]
      exact ⟨Nat.lt_succ_of_lt (r.index_lt hx).1, Nat.lt_succ_of_lt (r.index_lt hx).2⟩
  label_eq := by
    intro x hx
    rw [label, label, node_replace_fresh, node_replace_fresh]
    rcases hx with rfl | hx
    · rw [Function.update_self, if_pos rfl, if_pos rfl]
    · obtain ⟨hlt, hlt'⟩ := r.index_lt hx
      rw [r.update_of_mem hx, if_neg (Nat.ne_of_lt hlt), if_neg (Nat.ne_of_lt hlt')]
      exact r.label_eq hx
  value_eq := by
    intro x hx hleaf
    rw [label, node_replace_fresh] at hleaf
    rw [value, value, node_replace_fresh, node_replace_fresh]
    rcases hx with rfl | hx
    · rw [Function.update_self, if_pos rfl, if_pos rfl]
    · obtain ⟨hlt, hlt'⟩ := r.index_lt hx
      rw [if_neg (Nat.ne_of_lt hlt)] at hleaf ⊢
      rw [r.update_of_mem hx, if_neg (Nat.ne_of_lt hlt')]
      exact r.value_eq hx hleaf
  child_mem := by
    intro q x hq hinner hx
    obtain ⟨hq, hinner⟩ := r.mem_of_inner hq hinner
    rw [createText, Converter.children_replace_fresh r.left _ attached] at hx
    rcases Arena.mem_splice.1 hx with ⟨hx, -⟩ | ⟨-, hx⟩
    · exact Set.mem_insert_of_mem _ (r.child_mem hq hinner hx)
    · exact Set.mem_insert_iff.2 (Or.inl (List.mem_singleton.1 hx))
  children_eq := by
    intro q hq hinner
    obtain ⟨hq, hinner⟩ := r.mem_of_inner hq hinner
    -- the lists are renamed as before, but for the element, which the new text is in the place of
    have hmap : (t.children q).map f =
        (t.children q).map (Function.update f ⟨t.size⟩ ⟨u.size⟩) :=
      List.map_congr_left fun x hx => (r.update_of_mem (r.child_mem hq hinner hx) _).symm
    rw [createText, createText, Converter.children_replace_fresh r.left _ attached,
      Converter.children_replace_fresh r.right _ attached', r.update_of_mem hq,
      r.children_eq hq hinner, hmap, Arena.map_splice, r.update_of_mem he, List.map_singleton,
      Function.update_self]
    intro y hy hye
    rw [r.update_of_mem (r.child_mem hq hinner hy), r.update_of_mem he] at hye
    exact r.injOn (r.child_mem hq hinner hy) he hye

end Edit

end Renaming

end Tree

namespace Converter

variable {c : Converter}

theorem replacement?_eq_of_looksLike (looks : c.rules.GoesByLooks) {n m : NodeRef}
    (h : n.LooksLike m) : c.replacement? n = c.replacement? m := by
  rw [replacement?, replacement?, h.innerHtml_eq, Rule.tagName_eq_of_looksLike h,
    looks.find?_eq h c.options]
  cases hfind : c.rules.find? m c.options with
  | none => rfl
  | some entry =>
    obtain ⟨key, rule⟩ := entry
    have hrule := looks (key, rule) (List.mem_of_find?_eq_some hfind)
    simp only [hrule.render_eq h]

/-- Both conversions have failed with the same error, or both documents stand as they did, with the
same names for the nodes in `S`. -/
inductive Agree (N : Tree) (f : NodeId → NodeId) (S : Set NodeId) :
    Except Error Tree → Except Error Tree → Prop where
  | failed (error : Error) : Agree N f S (.error error) (.error error)
  | stands {t u : Tree} {g : NodeId → NodeId} {T : Set NodeId} (same : Renaming g T t u)
    (keeps : ∀ x ∈ S, x ∈ T ∧ g x = f x ∧ t.label x = N.label x) : Agree N f S (.ok t) (.ok u)

/-- What a step keeps of a state that has kept what there was before. -/
theorem Agree.of_keeps {g : NodeId → NodeId} {T : Set NodeId} {left right : Except Error Tree}
    (keeps : ∀ x ∈ S, x ∈ T ∧ g x = f x ∧ t.label x = N.label x) (h : Agree t g T left right) :
    Agree N f S left right := by
  cases h with
  | failed error => exact .failed error
  | stands same keeps' =>
    refine .stands same fun x hx => ?_
    obtain ⟨hT, hg, hlabel⟩ := keeps x hx
    obtain ⟨hT', hg', hlabel'⟩ := keeps' x hT
    exact ⟨hT', hg'.trans hg, hlabel'.trans hlabel⟩

/-- **One visit** does the same to both documents. The rules cannot tell the element from the other
one, so both visits take the same branch, and what they put into the document is the same. -/
theorem agree_visit (looks : c.rules.GoesByLooks) (r : Renaming f S t u) (hp : p ∈ S)
    (hinner : (t.label p).isLeaf = false) (he : e ∈ t.children p)
    (helement : t.isElement e = true) : Agree t f S (c.visit t e) (c.visit u (f e)) := by
  have heS := r.child_mem hp hinner he
  have attached : t.parent e ≠ none := by
    rw [r.left.mem_iff.1 he]
    exact Option.some_ne_none p
  have attached' : u.parent (f e) ≠ none := by
    rw [r.right.mem_iff.1 (r.mem_children hp hinner he)]
    exact Option.some_ne_none (f p)
  -- the rules cannot tell the two elements apart, so both visits take the same branch
  have hreplacement := replacement?_eq_of_looksLike looks (r.looksLike hp hinner he helement)
  simp only [visit, if_neg (show ¬ (t.parent e).isNone = true by simpa using attached),
    if_neg (show ¬ (u.parent (f e)).isNone = true by simpa using attached'), hreplacement]
  rcases c.replacement? ⟨u, f e⟩ with error | markdown
  · exact .failed error
  cases markdown with
  | some markdown =>
    -- the renaming is extended by the new text
    refine .stands (r.replace heS attached attached' markdown) fun x hx => ?_
    refine ⟨Set.mem_insert_of_mem _ hx, r.update_of_mem hx _, ?_⟩
    show Tree.label ((t.createText markdown).1.replace e ⟨t.size⟩) x = t.label x
    rw [Tree.label, Tree.node_replace_fresh, if_neg (Nat.ne_of_lt (r.index_lt hx).1), Tree.label]
  | none =>
    simp only [Except.map]
    cases c.options.unmatched with
    | unwrap =>
      refine .stands (r.unwrap heS attached attached' (Tree.isLeaf_of_isElement helement))
        fun x hx => ⟨hx, rfl, ?_⟩
      exact Tree.label_of_node_eq (Tree.node_unwrap t e x)
    | keep => exact .stands r fun x hx => ⟨hx, rfl, rfl⟩

/-- **Runs agree** as far as they have come. The level orders are the same up to names, so that the
visits come in the same order; an error in one of them is the same error in both, and ends both
runs. -/
theorem agree_visitAll (looks : c.rules.GoesByLooks) {N' : Tree} (r : Renaming f S N N')
    (hroot : root ∈ S) (hinner : (N.label root).isLeaf = false) (done : List NodeId) :
    ∀ {rest : List NodeId}, (N.levelOrder root).reverse = done ++ rest →
      Agree N f S (c.visitAll N done) (c.visitAll N' (done.map f)) := by
  induction done using List.reverseRecOn with
  | nil => exact fun _ => .stands r fun x hx => ⟨hx, rfl, rfl⟩
  | append_singleton done e ih =>
    intro rest split
    rw [List.append_assoc, List.singleton_append] at split
    have hmem : e ∈ N.levelOrder root := Tree.mem_levelOrder_of_split split List.mem_cons_self
    obtain ⟨p, hp, hpinner, he⟩ := r.exists_parent_of_mem_levelOrder hroot hinner hmem
    have heS := r.child_mem hp hpinner he
    have before := ih split
    rw [List.map_append, List.map_singleton, visitAll_concat, visitAll_concat]
    generalize c.visitAll N' (done.map f) = right at before
    cases hleft : c.visitAll N done with
    | error error =>
      rw [hleft] at before
      cases before with
      | failed => exact .failed error
    | ok t =>
      rw [hleft] at before
      cases before with
      | @stands _ u g T same keeps =>
        -- the parent of an element whose visit is to come has not changed
        obtain ⟨rep, run⟩ := exists_run r.left done split hleft
        have hparent := Progress.parent_above r.left split (run.progress r.left split) (Or.inl rfl)
        have he' : e ∈ t.children p :=
          same.left.mem_iff.2 (hparent.trans (r.left.mem_iff.1 he))
        obtain ⟨hpT, -, hplabel⟩ := keeps p hp
        obtain ⟨-, hge, helabel⟩ := keeps e heS
        have helement : t.isElement e = true := by
          rw [Tree.isElement, helabel]
          exact Tree.isElement_of_mem_levelOrder r.left hmem
        have step := agree_visit looks same hpT (hplabel ▸ hpinner) he' helement
        rw [hge] at step
        exact step.of_keeps keeps

/-- Documents that agree in the end print the same. -/
theorem Agree.finish_eq {left right : Except Error Tree} (agree : Agree N f S left right)
    (hroot : root ∈ S) (hfroot : f root = root) (hinner : (N.label root).isLeaf = false) :
    left.map finish = right.map finish := by
  cases agree with
  | failed error => rfl
  | @stands t u g T same keeps =>
    obtain ⟨hrootT, hg, hlabel⟩ := keeps root hroot
    have hhtml := same.innerHtml_eq hrootT (by rw [hlabel, hinner])
    rw [hg, hfroot] at hhtml
    show Except.ok (finish t) = Except.ok (finish u)
    rw [finish, finish, hhtml]

/-- **The result depends on the document alone**: not on the numbers of its nodes, nor on what
cannot be reached, nor on its comments, nor on how its texts are cut into nodes. -/
theorem convertTree_eq_of_merged_eq (c : Converter) (ht : t.WellFormed) (hu : u.WellFormed)
    (rules : ∀ entry ∈ c.rules.entries,
      entry.2.IsDeclarative ∨ entry.2 ∈ Rule.standard.map Prod.snd)
    (same : (t.contents root).merged = (u.contents root).merged) :
    c.convertTree t = c.convertTree u := by
  have looks : c.rules.GoesByLooks := fun entry hentry =>
    (rules entry hentry).elim Rule.goesByLooks_of_isDeclarative Rule.goesByLooks_of_mem_standard
  have hN := (Tree.trims_normalize t c.options).wellFormed ht
  have hN' := (Tree.trims_normalize u c.options).wellFormed hu
  -- after normalization both documents have the same contents
  have hcontents :
      (u.normalize c.options).contents root = (t.normalize c.options).contents root := by
    rw [Tree.contents_normalize ht, Tree.contents_normalize hu, same]
  rw [convertTree, convertTree]
  generalize t.normalize c.options = N at hN hcontents
  generalize u.normalize c.options = N' at hN' hcontents
  obtain ⟨f, S, r, hroot, hfroot⟩ :=
    Tree.exists_renaming hN.forest hN'.forest hN.root_lt hN'.root_lt hcontents
  have hinner : (N.label root).isLeaf = false := by
    rw [(hN.label_eq_document hN.root_lt).2 rfl]
    rfl
  have agree := agree_visitAll looks r hroot hinner (N.levelOrder root).reverse
    (List.append_nil _).symm
  have hlevels := r.levelOrder_eq hroot hinner
  rw [hfroot] at hlevels
  rw [hlevels, ← List.map_reverse]
  exact agree.finish_eq hroot hfroot hinner

/-- A list of two items, made from the top down. -/
def inventory : Tree :=
  Tree.empty.run
    [.createElement "ol" [], .append root ⟨1⟩, .createElement "li" [], .append ⟨1⟩ ⟨2⟩,
     .createText "one", .append ⟨2⟩ ⟨3⟩, .createElement "li" [], .append ⟨1⟩ ⟨4⟩,
     .createElement "mark" [], .append ⟨4⟩ ⟨5⟩, .createText "two", .append ⟨5⟩ ⟨6⟩]

/-- The same list, made from the bottom up, with comments and a cut text, and with an item that was
taken out again. -/
def annotatedInventory : Tree :=
  Tree.empty.run
    [.createText "o", .createText "tw", .createElement "mark" [], .append ⟨3⟩ ⟨2⟩,
     .append ⟨3⟩ ⟨1⟩, .createElement "li" [], .append ⟨4⟩ ⟨3⟩, .createElement "ol" [],
     .append ⟨5⟩ ⟨4⟩, .createElement "li" [], .insertBefore ⟨4⟩ ⟨6⟩, .createText "one",
     .append ⟨6⟩ ⟨7⟩, .createComment "of three", .insertBefore ⟨4⟩ ⟨8⟩,
     .createElement "li" [], .append ⟨5⟩ ⟨9⟩, .detach ⟨9⟩, .append root ⟨5⟩,
     .createComment "oh", .insertBefore ⟨1⟩ ⟨10⟩]

/-- The bundled rules and a template for marks. -/
def inventoryRules : Converter where
  rules := ⟨Rule.standard ++ [("mark", .ofTemplate (.tagName "mark") "=={content}==")]⟩

theorem convertTree_eq_of_merged_eq_inventory :
    inventory.WellFormed ∧ annotatedInventory.WellFormed ∧
      (inventory.contents root).merged = (annotatedInventory.contents root).merged ∧
      (∀ entry ∈ inventoryRules.rules.entries,
        entry.2.IsDeclarative ∨ entry.2 ∈ Rule.standard.map Prod.snd) ∧
      inventoryRules.convertTree inventory = inventoryRules.convertTree annotatedInventory := by
  have h : inventory.WellFormed :=
    Tree.WellFormed.run _ Tree.wellFormed_empty (Tree.allAllowed_of_areAllowed (by decide +kernel))
  have h' : annotatedInventory.WellFormed :=
    Tree.WellFormed.run _ Tree.wellFormed_empty (Tree.allAllowed_of_areAllowed (by decide +kernel))
  have same : (inventory.contents root).merged = (annotatedInventory.contents root).merged := by
    decide +kernel
  have rules : ∀ entry ∈ inventoryRules.rules.entries,
      entry.2.IsDeclarative ∨ entry.2 ∈ Rule.standard.map Prod.snd := by
    intro entry hentry
    rcases List.mem_append.1 hentry with hentry | hentry
    · exact Or.inr (List.mem_map_of_mem hentry)
    · rw [List.mem_singleton.1 hentry]
      exact Or.inl ⟨trivial, trivial⟩
  exact ⟨h, h', same, rules, convertTree_eq_of_merged_eq inventoryRules h h' rules same⟩

end Converter

end Tagdown
