import Tagdown.Proofs.Normalize.Idempotence

/-!
# The normal form, node by node

What a reader of a normalized document finds at its nodes (`Tree.Normalized`): no comment, no text
next to a text, no white space but single spaces where white space is not kept, no space next to a
block or at the two ends of one. Each of these is read off the normal form of the row in which the
node stands, and every row below the root has it (`Clean.normalAt`).
-/

namespace Tagdown

open Text (isCollapsible)

/-! ## Collapsed texts -/

/-- A text with its white space collapsed; `adjacent` tells whether a block stands next to it. -/
structure Collapsed (adjacent : Bool) (value : String) : Prop where
  ne_empty : value ≠ ""
  /-- there is no white space but spaces -/
  eq_space : ∀ c ∈ value.toList, isCollapsible c = true → c = ' '
  not_double : ¬ [' ', ' '] <:+: value.toList
  /-- white space alone is one space, and stands next to no block -/
  blank : value.toList.all isCollapsible = true → value = " " ∧ adjacent = false

/-- White space that is left over by collapsing is a plain space. -/
theorem eq_space_of_mem_collapseFrom {c : Char} (hc : isCollapsible c = true) (s : List Char) :
    ∀ afterSpace, c ∈ collapseFrom afterSpace s → c = ' ' := by
  induction s with
  | nil =>
    intro afterSpace hmem
    cases hmem
  | cons d s ih =>
    intro afterSpace hmem
    rw [collapseFrom] at hmem
    split at hmem
    · split at hmem
      · exact ih true hmem
      · exact (List.mem_cons.1 hmem).elim id (ih true)
    · rename_i hd
      rcases List.mem_cons.1 hmem with rfl | hmem
      · exact absurd hc hd
      · exact ih false hmem

/-- After a space comes another character, also after the one that was written before. -/
theorem spaces_collapseFrom (s : List Char) :
    ∀ afterSpace, (collapseFrom afterSpace s).IsChain (fun c d => ¬ (c = ' ' ∧ d = ' ')) ∧
      (afterSpace = true → ∀ c ∈ (collapseFrom afterSpace s).head?, c ≠ ' ') := by
  induction s with
  | nil => exact fun _ => ⟨List.isChain_nil, fun _ c hc => by cases hc⟩
  | cons c s ih =>
    intro afterSpace
    rw [collapseFrom]
    split
    · obtain ⟨chain, hhead⟩ := ih true
      split
      · exact ⟨chain, fun _ => hhead rfl⟩
      · rename_i hspace
        refine ⟨List.isChain_cons.2 ⟨fun d hd hspaces => hhead rfl d hd hspaces.2, chain⟩, ?_⟩
        exact fun htrue => absurd htrue hspace
    · rename_i hc
      have hne : c ≠ ' ' := by
        rintro rfl
        exact hc isCollapsible_space
      refine ⟨List.isChain_cons.2 ⟨fun d _ hspaces => hne hspaces.1, (ih false).1⟩, ?_⟩
      rintro - _ ⟨⟩
      exact hne

/-- No two of them stand next to each other. -/
theorem not_double_collapseWhitespace (s : List Char) :
    ¬ [' ', ' '] <:+: collapseWhitespace s := by
  rintro ⟨before, after, hsplit⟩
  have chain := (spaces_collapseFrom s false).1
  change (collapseWhitespace s).IsChain _ at chain
  rw [← hsplit, List.append_assoc, List.isChain_append] at chain
  exact (List.isChain_cons_cons.1 chain.2.1).1 ⟨rfl, rfl⟩

/-- A text that is what it is to be is collapsed. -/
theorem collapsed_of_settleText {adjacent : Bool} {value : String}
    (h : Row.settleText adjacent value = some value) : Collapsed adjacent value := by
  rw [Row.settleText] at h
  split at h
  · split at h
    · cases h
    · rename_i hadjacent
      -- a text of white space alone has become a single space
      obtain rfl : " " = value := Option.some.inj h
      refine ⟨by decide, fun c hmem _ => List.mem_singleton.1 hmem, fun hdouble => ?_,
        fun _ => ⟨rfl, by simpa using hadjacent⟩⟩
      exact absurd hdouble.length_le (by decide)
  · rename_i hall
    -- any other text is what collapsing leaves of it
    have hvalue : value.toList = collapseWhitespace value.toList := by
      conv_lhs => rw [← Option.some.inj h, String.toList_ofList]
    constructor
    · rintro rfl
      exact hall rfl
    · intro c hmem hc
      rw [hvalue] at hmem
      exact eq_space_of_mem_collapseFrom hc _ false hmem
    · rw [hvalue]
      exact not_double_collapseWhitespace _
    · exact fun hblank => absurd hblank hall

namespace Tree

variable {t : Tree} {p x y : NodeId} {options : Options}

/-! ## The nodes of a document in its normal form

What `Everywhere` says of rows is read off for single nodes and their neighbours, which is how a
reader of a normalized document would put it. -/

/-- What there is to find below the root of a normalized document. -/
structure Normalized (t : Tree) (options : Options) : Prop where
  noComments : t.NoComments root
  /-- no text is followed by a text -/
  apart : ∀ {x y}, t.Below root x → t.label x = .text → t.nextSibling x = some y →
    t.label y ≠ .text
  /-- a text is collapsed, unless its white space is kept -/
  collapsed : ∀ {p x}, t.Below root x → t.label x = .text → t.parent x = some p →
    t.isPreformattedElement options p = false →
    Collapsed (t.hasAdjacentBlock options x) (t.value x)
  /-- the document, and each block whose white space is not kept, begins and ends with no white
  space -/
  trimmed : ∀ {p}, p = root ∨ (t.Below root p ∧ t.isBlockElement options p = true ∧
      t.isPreformattedElement options p = false) →
    (∀ x, t.firstChild p = some x → t.label x = .text → StartsSolid (t.value x)) ∧
      ∀ x, t.lastChild p = some x → t.label x = .text → EndsSolid (t.value x)

/-- Where there are children, the node is no leaf. -/
theorem Clean.isLeaf_eq_false (h : t.Clean) (hp : t.Within root p) (hx : x ∈ t.children p) :
    (t.label p).isLeaf = false := by
  rcases hp with rfl | hp
  · rw [(h.wellFormed.label_eq_document h.wellFormed.root_lt).2 rfl]
    rfl
  · rcases h.cases_below hp with helement | ⟨-, hchildren⟩
    · exact Label.isLeaf_of_isElement helement
    · rw [hchildren] at hx
      cases hx

/-- The normal form goes down to every node. -/
theorem Clean.normalAt (h : t.Clean) (normal : t.NormalAt options root) (hp : t.Within root p) :
    t.NormalAt options p := by
  have hforest := h.wellFormed.forest
  rcases hp with rfl | hp
  · exact normal
  induction hp with
  | single hx =>
    have hmem := hforest.mem_iff.2 hx
    exact normal.child hforest (h.isLeaf_eq_false (t.within_self root) hmem) hmem
  | tail hq hx ih =>
    have hmem := hforest.mem_iff.2 hx
    exact ih.child hforest (h.isLeaf_eq_false (Or.inr hq) hmem) hmem

/-- So does the normal form of the rows. -/
theorem Clean.normal_row (h : t.Clean) (normal : t.NormalAt options root) (hp : t.Within root p)
    (hx : x ∈ t.children p) : Row.Normal options (t.label p) (t.row p) :=
  (h.normalAt normal hp).row h.wellFormed.forest (h.isLeaf_eq_false hp hx)

/-- Whatever is below the root is a child of a node that is the root or below it. -/
theorem Clean.exists_parent (h : t.Clean) (hx : t.Below root x) :
    ∃ p, t.Within root p ∧ x ∈ t.children p := by
  obtain ⟨p, hp, hroot⟩ := hx.cases_parent
  exact ⟨p, hroot, h.wellFormed.forest.mem_iff.2 hp⟩

/-- The normal form of its row says of a text that the next sibling is no text. -/
theorem Clean.apart (h : t.Clean) (normal : t.NormalAt options root) (hx : t.Below root x)
    (htext : t.label x = .text) (hy : t.nextSibling x = some y) : t.label y ≠ .text := by
  have hforest := h.wellFormed.forest
  obtain ⟨p, hp, hmem⟩ := h.exists_parent hx
  obtain ⟨q, l, r, hsplit⟩ := hforest.of_nextSibling hy
  obtain rfl : p = q := hforest.parent_unique hmem (by rw [hsplit]; simp)
  have joined := (h.normal_row normal hp hmem).toJoined
  -- the text stands last before `y`
  have hsplit' : t.children p = (l ++ [x]) ++ y :: r := by simpa using hsplit
  rw [row_of_split hsplit'] at joined
  intro hlabel
  refine joined.getLast?_kind_ne (by rw [kind_contents, hlabel]) (u := t.contents x) ?_ ?_
  · rw [List.getLast?_map, List.getLast?_concat]
    rfl
  · rw [kind_contents, htext]

/-- The same row says what the text is: what it becomes between its neighbours. -/
theorem Clean.collapsed (h : t.Clean) (normal : t.NormalAt options root) (hx : t.Below root x)
    (htext : t.label x = .text) (hp : t.parent x = some p)
    (hkept : t.isPreformattedElement options p = false) :
    Collapsed (t.hasAdjacentBlock options x) (t.value x) := by
  have hforest := h.wellFormed.forest
  obtain ⟨q, hq, hmem⟩ := h.exists_parent hx
  obtain rfl : q = p := Option.some.inj ((hforest.mem_iff.1 hmem).symm.trans hp)
  obtain ⟨done, rest, hsplit⟩ := List.append_of_mem hmem
  have hparent : ¬ options.isPreformattedLabel (t.label q) = true := by
    rw [Bool.not_eq_true]
    exact hkept
  rw [hasAdjacentBlock_eq options hforest hsplit]
  exact collapsed_of_settleText
    (settleText_value (h.normal_row normal hq hmem) hsplit htext hparent)

/-- And for a block it says how the row begins and ends. -/
theorem Clean.trimmed (h : t.Clean) (normal : t.NormalAt options root)
    (hp : p = root ∨ (t.Below root p ∧ t.isBlockElement options p = true ∧
      t.isPreformattedElement options p = false)) :
    (∀ x, t.firstChild p = some x → t.label x = .text → StartsSolid (t.value x)) ∧
      ∀ x, t.lastChild p = some x → t.label x = .text → EndsSolid (t.value x) := by
  have hforest := h.wellFormed.forest
  have hwithin : t.Within root p := hp.imp_right And.left
  -- the root and the blocks that are not preformatted are where rows are trimmed
  have htrim : options.isTrimmedLabel (t.label p) = true := by
    rcases hp with rfl | ⟨-, hblock, hkept⟩
    · rw [(h.wellFormed.label_eq_document h.wellFormed.root_lt).2 rfl]
      rfl
    · rw [isBlockElement, isElement, tagName] at hblock
      rw [isPreformattedElement, isElement, tagName] at hkept
      cases hlabel : t.label p <;>
        simp_all [Label.isElement, Label.name, Options.isTrimmedLabel]
  rw [hforest.first, hforest.last]
  refine ⟨fun x hx htext => ?_, fun x hx htext => ?_⟩
  · have hmem := List.mem_of_mem_head? hx
    have hfirst := ((h.normal_row normal hwithin hmem).trimmed htrim).1
    rw [← value_contents (by rw [htext]; rfl)]
    exact hfirst (t.contents x) (by rw [row, List.head?_map, hx]; rfl) (by simpa using htext)
  · have hmem := List.mem_of_mem_getLast? hx
    have hlast := ((h.normal_row normal hwithin hmem).trimmed htrim).2
    rw [← value_contents (by rw [htext]; rfl)]
    refine hlast (t.contents x) ?_ (by simpa using htext)
    rw [row, List.head?_reverse, List.getLast?_map, hx]
    rfl

/-- **The normal form is reached**: normalization of any document leaves one in which there is no
comment and no white space but what a browser shows. All that is needed is the normal form of the
contents, read off node by node. -/
theorem normalized_normalize (h : t.WellFormed) (bare : t.LeavesBare root) (options : Options) :
    (t.normalize options).Normalized options := by
  have clean := clean_normalize h bare options
  have normal := normalAt_normalize h options
  constructor
  · exact normalize_noComments h bare options
  · exact clean.apart normal
  · exact clean.collapsed normal
  · exact clean.trimmed normal

/-- Texts with white space of all kinds around a comment, a block, and an element that keeps it. -/
def scraps : Tree :=
  Tree.empty.run
    [.createElement "div" [], .append root ⟨1⟩, .createText "\n a ", .append ⟨1⟩ ⟨2⟩,
     .createComment "-", .append ⟨1⟩ ⟨3⟩, .createText "\t b", .append ⟨1⟩ ⟨4⟩,
     .createElement "i" [], .append ⟨1⟩ ⟨5⟩, .createText "\n", .append ⟨5⟩ ⟨6⟩,
     .createText "\n", .append ⟨1⟩ ⟨7⟩, .createElement "pre" [], .append ⟨1⟩ ⟨8⟩,
     .createText "  c", .append ⟨8⟩ ⟨9⟩]

theorem normalized_normalize_scraps :
    scraps.WellFormed ∧ scraps.LeavesBare root ∧
      (scraps.normalize {}).innerHtml root = "<div>a b<i> </i><pre>  c</pre></div>" ∧
      Collapsed ((scraps.normalize {}).hasAdjacentBlock {} ⟨2⟩)
        ((scraps.normalize {}).value ⟨2⟩) ∧
      StartsSolid ((scraps.normalize {}).value ⟨2⟩) := by
  have h : scraps.WellFormed :=
    WellFormed.run _ wellFormed_empty (allAllowed_of_areAllowed (by decide +kernel))
  have bare : scraps.LeavesBare root := leavesBare_of_forall_lt _ (by decide +kernel)
  -- what the theorem is asked about at the first text, evaluated in one go
  have facts : (scraps.normalize {}).parent ⟨1⟩ = some root ∧
      (scraps.normalize {}).parent ⟨2⟩ = some ⟨1⟩ ∧
      (scraps.normalize {}).firstChild ⟨1⟩ = some ⟨2⟩ ∧
      (scraps.normalize {}).label ⟨2⟩ = .text ∧
      (scraps.normalize {}).isBlockElement {} ⟨1⟩ = true ∧
      (scraps.normalize {}).isPreformattedElement {} ⟨1⟩ = false ∧
      (scraps.normalize {}).innerHtml root = "<div>a b<i> </i><pre>  c</pre></div>" := by
    decide +kernel
  obtain ⟨hdiv, htext, hfirst, hlabel, hblock, hkept, hhtml⟩ := facts
  have below := Arena.below_of_parent hdiv
  have normalized := normalized_normalize h bare {}
  refine ⟨h, bare, hhtml, ?_, ?_⟩
  · exact normalized.collapsed (below.trans (Arena.below_of_parent htext)) hlabel htext hkept
  · exact (normalized.trimmed (Or.inr ⟨below, hblock, hkept⟩)).1 ⟨2⟩ hfirst hlabel

end Tree

end Tagdown
