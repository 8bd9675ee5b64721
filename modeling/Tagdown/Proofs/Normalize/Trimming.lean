import Tagdown.Proofs.Document.History
import Tagdown.Proofs.Normalize.Passes
import Tagdown.Proofs.Text.Tidy

/-!
# Trimming a node and trimming what is printed of it

`trimContent` takes white space from the two ends of a node by editing the texts there. That is the
same as to trim what is printed of the content (`trimContent_trims_innerHtml`), for texts that are
empty, that stand next to each other, and that are printed raw, since white space is printed as it
is and nothing else that is printed begins or ends with any. A document as a child would print what
is in it, with no tag around it, and is excluded.

The edits stay where they are made (`Cut`): blank texts go from the two ends of the children, and
the texts that come to stand there are the only nodes that change.
-/

namespace Tagdown

open Text (isCollapsible trimStartWhile trimEndWhile)

/-- A text without the white space that it begins and ends with. -/
def Text.trimCollapsible (s : List Char) : List Char :=
  trimEndWhile isCollapsible (trimStartWhile isCollapsible s)

/-! ## Printing the texts at the ends

Only the texts at the two ends of a row matter. What comes next is no text and is printed with an
angle bracket at each of its ends, so trimming what is printed stops there. -/

namespace Entity

/-- White space is printed as it is and what is escaped begins with none, so printing and trimming
can change places. -/
theorem trimStartWhile_encodeText (s : List Char) :
    trimStartWhile isCollapsible (encodeText s) = encodeText (trimStartWhile isCollapsible s) := by
  induction s with
  | nil => rfl
  | cons c s ih =>
    rw [encodeText_cons]
    cases hc : isCollapsible c with
    | true =>
      rw [encodeTextChar_of_isCollapsible hc, List.singleton_append, trimStartWhile,
        List.dropWhile_cons_of_pos hc, trimStartWhile, List.dropWhile_cons_of_pos hc]
      exact ih
    | false =>
      obtain ⟨b, -, hb, -, hnot, -⟩ := exists_encodeTextChar hc
      obtain ⟨rest, hrest⟩ := List.head?_eq_some_iff.1 hb
      rw [Text.trimStartWhile_cons_of_not (by simp [hc]), encodeText_cons, hrest, List.cons_append,
        Text.trimStartWhile_cons_of_not (by simp [hnot])]

/-- Nor does an escape end with white space. -/
theorem trimEndWhile_encodeText (s : List Char) :
    trimEndWhile isCollapsible (encodeText s) = encodeText (trimEndWhile isCollapsible s) := by
  induction s using List.reverseRecOn with
  | nil => rfl
  | append_singleton s c ih =>
    rw [encodeText_append, encodeText_cons, encodeText_nil, List.append_nil]
    cases hc : isCollapsible c with
    | true =>
      rw [encodeTextChar_of_isCollapsible hc, Text.trimEndWhile_append_of_all (by simpa using hc),
        Text.trimEndWhile_append_of_all (by simpa using hc), ih]
    | false =>
      obtain ⟨-, e, -, he, -, hnot⟩ := exists_encodeTextChar hc
      obtain ⟨rest, hrest⟩ := List.getLast?_eq_some_iff.1 he
      rw [Text.trimEndWhile_concat_of_not (by simp [hc]), encodeText_append, encodeText_cons,
        encodeText_nil, List.append_nil, hrest, ← List.append_assoc,
        Text.trimEndWhile_concat_of_not (by simp [hnot])]

end Entity

namespace Node

/-- To trim a text is to trim what is printed of it, at the start -/
theorem trimStartWhile_writeText (raw : Bool) (s : String) :
    trimStartWhile isCollapsible (writeText raw s).toList =
      (writeText raw (String.ofList (trimStartWhile isCollapsible s.toList))).toList := by
  cases raw with
  | true => simp [writeText]
  | false => simp [writeText, Entity.trimStartWhile_encodeText]

/-- and at the end. -/
theorem trimEndWhile_writeText (raw : Bool) (s : String) :
    trimEndWhile isCollapsible (writeText raw s).toList =
      (writeText raw (String.ofList (trimEndWhile isCollapsible s.toList))).toList := by
  cases raw with
  | true => simp [writeText]
  | false => simp [writeText, Entity.trimEndWhile_encodeText]

/-- What is no text and no document is printed between angle brackets. -/
theorem exists_write_eq (raw : Bool) {r : Rose Node} (htext : r.kind ≠ .text)
    (hdocument : r.kind ≠ .document) :
    ∃ inside, (write raw r).toList = '<' :: (inside ++ ['>']) := by
  obtain ⟨n, children⟩ := r
  rcases hlabel : n.label with _ | ⟨tag, attributes⟩ | _ | _
  · exact absurd hlabel hdocument
  · rw [write, hlabel]
    dsimp only
    split
    · exact ⟨(tag ++ String.join (attributes.map writeAttribute)).toList, by simp [openTag]⟩
    · refine ⟨(tag ++ String.join (attributes.map writeAttribute) ++ ">" ++
        writeAll (isRawTextTag tag) children ++ "</" ++ tag).toList, ?_⟩
      simp [openTag, closeTag]
  · exact absurd hlabel htext
  · rw [write, hlabel]
    exact ⟨("!--" ++ n.value ++ "--").toList, by simp [writeComment]⟩

/-- Of a text its value is printed and nothing that may stand below it. -/
theorem write_of_kind_text (raw : Bool) {r : Rose Node} (h : r.kind = .text) :
    write raw r = writeText raw r.value := by
  obtain ⟨n, children⟩ := r
  exact write_of_text raw h children

end Node

namespace Row

/-- To trim a row is to trim what is printed of it, at the start -/
theorem toList_writeAll_trimStart (raw : Bool) {row : Row} (h : ∀ r ∈ row, r.kind ≠ .document) :
    (Node.writeAll raw (trimStart row)).toList =
      trimStartWhile isCollapsible (Node.writeAll raw row).toList := by
  induction row with
  | nil => rfl
  | cons r row ih =>
    rw [trimStart, trimFirst, Text.isEmpty_trimStartWhile, Node.writeAll, String.toList_append]
    by_cases htext : r.kind = .text
    · rw [if_pos htext, Node.write_of_kind_text raw htext]
      cases hblank : r.value.toList.all isCollapsible with
      | true =>
        rw [if_pos rfl, Text.trimStartWhile_append_of_all (by simpa using hblank)]
        exact ih fun x hx => h x (List.mem_cons_of_mem r hx)
      | false =>
        rw [if_neg Bool.false_ne_true,
          Text.trimStartWhile_append_of_not_all (by simpa using hblank),
          Node.trimStartWhile_writeText, Node.writeAll, String.toList_append,
          Node.write_of_kind_text raw (by exact htext), Rose.value_withValue]
    · obtain ⟨inside, hwritten⟩ := Node.exists_write_eq raw htext (h r List.mem_cons_self)
      rw [if_neg htext, Node.writeAll, String.toList_append, hwritten, List.cons_append,
        Text.trimStartWhile_cons_of_not (by decide)]

/-- The recursion from the back: a blank text goes and the one before it is looked at. -/
theorem trimEnd_concat (row : Row) (r : Rose Node) :
    trimEnd (row ++ [r]) =
      if r.kind = .text then
        if r.value.toList.all isCollapsible then trimEnd row
        else row ++ [r.withValue (String.ofList (trimEndWhile isCollapsible r.value.toList))]
      else row ++ [r] := by
  rw [trimEnd, List.reverse_concat, trimFirst, Text.isEmpty_trimEndWhile]
  split
  · split
    · rfl
    · rw [List.reverse_cons, List.reverse_reverse]
  · rw [List.reverse_cons, List.reverse_reverse]

/-- and at the end. -/
theorem toList_writeAll_trimEnd (raw : Bool) {row : Row} (h : ∀ r ∈ row, r.kind ≠ .document) :
    (Node.writeAll raw (trimEnd row)).toList =
      trimEndWhile isCollapsible (Node.writeAll raw row).toList := by
  induction row using List.reverseRecOn with
  | nil => rfl
  | append_singleton row r ih =>
    have written (x : Rose Node) : (Node.writeAll raw (row ++ [x])).toList =
        (Node.writeAll raw row).toList ++ (Node.write raw x).toList := by
      simp [Node.writeAll_append, Node.writeAll]
    rw [trimEnd_concat, written]
    by_cases htext : r.kind = .text
    · rw [if_pos htext, Node.write_of_kind_text raw htext]
      cases hblank : r.value.toList.all isCollapsible with
      | true =>
        rw [if_pos rfl, Text.trimEndWhile_append_of_all (by simpa using hblank)]
        exact ih fun x hx => h x (List.mem_append_left _ hx)
      | false =>
        rw [if_neg Bool.false_ne_true, Text.trimEndWhile_append_of_not_all (by simpa using hblank),
          Node.trimEndWhile_writeText, written, Node.write_of_kind_text raw (by exact htext),
          Rose.value_withValue]
    · obtain ⟨inside, hwritten⟩ := Node.exists_write_eq raw htext (h r (by simp))
      rw [if_neg htext, written, hwritten, ← List.cons_append, ← List.append_assoc,
        Text.trimEndWhile_concat_of_not (by decide)]

end Row

namespace Tree

variable {t u v : Tree} {p c : NodeId} {edge edge' : NodeId → Prop} {front back : List NodeId}

/-! ## Where the edits happen

The loop at either end detaches blank texts, one in each round, and then writes one value. `Cut`
holds for any number of these edits, which is what the induction on the rounds asks for. -/

/-- The node is a text of nothing but white space. -/
def IsBlankText (t : Tree) (c : NodeId) : Prop :=
  t.label c = .text ∧ (t.value c).toList.all isCollapsible = true

/-- It is a matter of what the node holds, and not of where it stands. -/
theorem isBlankText_congr (h : u.node c = t.node c) : u.IsBlankText c ↔ t.IsBlankText c := by
  rw [IsBlankText, IsBlankText, label, label, value, value, h]

/-- From `t` to `u` the children of `p` lose the blank texts `front` and `back` at their two ends.
No other node has other children, and what a node holds is the same, unless it is a text in `edge`,
which is not made blank. -/
structure Cut (p : NodeId) (edge : NodeId → Prop) (t u : Tree) (front back : List NodeId) :
    Prop where
  children : t.children p = front ++ u.children p ++ back
  blank : ∀ c ∈ front ++ back, t.IsBlankText c
  elsewhere : ∀ q, q ≠ p → u.children q = t.children q
  node : ∀ c, u.node c = t.node c ∨
    edge c ∧ t.label c = .text ∧ u.label c = .text ∧ ¬ u.IsBlankText c

namespace Cut

/-- No edit is a cut that takes nothing. -/
theorem refl (p : NodeId) (edge : NodeId → Prop) (t : Tree) : Cut p edge t t [] [] :=
  ⟨by simp, by simp, fun _ _ => rfl, fun _ => Or.inl rfl⟩

/-- A text that has changed is not blank, so for the others nothing need be known of where they
stand. -/
theorem mono (h : Cut p edge t u front back) (hedge : ∀ c, edge c → ¬ u.IsBlankText c → edge' c) :
    Cut p edge' t u front back :=
  { h with
    node := fun c => (h.node c).imp_right fun ⟨hc, ht, hu, hfilled⟩ =>
      ⟨hedge c hc hfilled, ht, hu, hfilled⟩ }

/-- What is blank after a cut was blank before. -/
theorem isBlankText (h : Cut p edge t u front back) (hc : u.IsBlankText c) : t.IsBlankText c := by
  rcases h.node c with hsame | ⟨-, -, -, hfilled⟩
  · exact (isBlankText_congr hsame).1 hc
  · exact absurd hc hfilled

/-- Cuts add up: what goes later stood further inside. -/
theorem trans {front' back' : List NodeId} (h : Cut p edge t u front back)
    (h' : Cut p edge u v front' back') : Cut p edge t v (front ++ front') (back' ++ back) := by
  refine ⟨?_, ?_, fun q hq => (h'.elsewhere q hq).trans (h.elsewhere q hq), fun c => ?_⟩
  · rw [h.children, h'.children]
    simp only [List.append_assoc]
  · intro c hc
    have hc : c ∈ front ++ back ∨ c ∈ front' ++ back' := by
      simp only [List.mem_append] at hc ⊢
      tauto
    exact hc.elim (h.blank c) fun hc => h.isBlankText (h'.blank c hc)
  · rcases h'.node c with hsame' | ⟨hedge, hu, hv, hfilled⟩
    · rcases h.node c with hsame | ⟨hedge, ht, hu, hfilled⟩
      · exact Or.inl (hsame'.trans hsame)
      · exact Or.inr ⟨hedge, ht, (label_of_node_eq hsame').trans hu,
          mt (isBlankText_congr hsame').1 hfilled⟩
    · rcases h.node c with hsame | ⟨-, ht, -, -⟩
      · exact Or.inr ⟨hedge, (label_of_node_eq hsame) ▸ hu, hv, hfilled⟩
      · exact Or.inr ⟨hedge, ht, hv, hfilled⟩

end Cut

/-- A blank text at an end is detached, and this is all that changes. -/
theorem cut_detach (ht : t.IsForest) (hblank : t.IsBlankText c) (hends : front ++ back = [c])
    (hchildren : t.children p = front ++ Arena.children (t.detach c) p ++ back) :
    Cut p edge t (t.detach c) front back := by
  have hc : c ∈ t.children p := by
    have hends : c ∈ front ++ back := hends ▸ List.mem_singleton_self c
    rw [hchildren]
    simp only [List.mem_append] at hends ⊢
    tauto
  refine ⟨hchildren, ?_, fun q hq => (sameOff_detach ht hc q hq).2,
    fun x => Or.inl (node_detach t c x)⟩
  rw [hends]
  exact fun x hx => List.mem_singleton.1 hx ▸ hblank

/-- The case that it stands first, -/
theorem cut_detach_first (ht : t.IsForest) (hblank : t.IsBlankText c) {rest : List NodeId}
    (hchildren : t.children p = c :: rest) : Cut p edge t (t.detach c) [c] [] := by
  have turn := turn_detach ht (show t.children p = [] ++ c :: rest from hchildren)
  refine cut_detach ht hblank rfl ?_
  rw [turn.children, hchildren, List.append_nil]
  rfl

/-- and the case that it stands last. -/
theorem cut_detach_last (ht : t.IsForest) (hblank : t.IsBlankText c) {rest : List NodeId}
    (hchildren : t.children p = rest ++ [c]) : Cut p edge t (t.detach c) [] [c] := by
  refine cut_detach ht hblank rfl ?_
  rw [(turn_detach ht hchildren).children, hchildren, List.append_nil, List.nil_append]

/-- The text that comes to stand at an end has white space taken from it, and is left with some
character. -/
theorem cut_setValue (ht : t.IsForest) (hedge : edge c) (htext : t.label c = .text)
    {value : String} (hfilled : value.toList.all isCollapsible = false) :
    Cut p edge t (t.setValue c value) [] [] := by
  have hchildren (q : NodeId) : Arena.children (t.setValue c value) q = t.children q := by
    rw [setValue, ht.children_modifyPayload]
  refine ⟨by simp [hchildren], by simp, fun q _ => hchildren q, fun x => ?_⟩
  by_cases hx : x = c
  · subst hx
    refine Or.inr ⟨hedge, htext, by rwa [label_setValue], ?_⟩
    rintro ⟨-, hblank⟩
    rw [Tree.value, node_setValue_self htext, hfilled] at hblank
    cases hblank
  · exact Or.inl (sameOff_setValue ht c value x hx).1

/-- Blank texts go from the start of a node, and then the first text that is not blank is given
another value. -/
theorem exists_cut_trimStart (fuel : Nat) :
    ∀ t : Tree, t.IsForest → ∃ front,
      Cut p (· ∈ (Arena.children (trimStart fuel t p) p).head?) t (trimStart fuel t p)
        front [] := by
  induction fuel with
  | zero => exact fun t _ => ⟨[], Cut.refl p _ t⟩
  | succ fuel ih =>
    intro t ht
    rw [trimStart, ht.first p]
    cases hchildren : t.children p with
    | nil => exact ⟨[], Cut.refl p _ t⟩
    | cons c rest =>
      rw [List.head?_cons]
      dsimp only
      rw [Text.isEmpty_trimStartWhile]
      by_cases htext : t.label c = .text
      · rw [if_pos (isText_iff.2 htext)]
        cases hblank : (t.value c).toList.all isCollapsible with
        -- a blank text goes, and the next child is looked at
        | true =>
          obtain ⟨front, later⟩ := ih (t.detach c) (ht.detach c)
          exact ⟨[c] ++ front, (cut_detach_first ht ⟨htext, hblank⟩ hchildren).trans later⟩
        -- a text with something in it is cut and is where the trimming ends
        | false =>
          refine ⟨[], cut_setValue ht ?_ htext ?_⟩
          · rw [if_neg Bool.false_ne_true, setValue, ht.children_modifyPayload, hchildren]
            rfl
          · rwa [String.toList_ofList, Text.all_trimStartWhile]
      · rw [if_neg (mt isText_iff.1 htext)]
        exact ⟨[], Cut.refl p _ t⟩

/-- The same at the end. -/
theorem exists_cut_trimEnd (fuel : Nat) :
    ∀ t : Tree, t.IsForest → ∃ back,
      Cut p (· ∈ (Arena.children (trimEnd fuel t p) p).getLast?) t (trimEnd fuel t p) [] back := by
  induction fuel with
  | zero => exact fun t _ => ⟨[], Cut.refl p _ t⟩
  | succ fuel ih =>
    intro t ht
    rw [trimEnd, ht.last p]
    rcases List.eq_nil_or_concat' (t.children p) with hchildren | ⟨rest, c, hchildren⟩
    · rw [hchildren]
      exact ⟨[], Cut.refl p _ t⟩
    · rw [hchildren, List.getLast?_concat]
      dsimp only
      rw [Text.isEmpty_trimEndWhile]
      by_cases htext : t.label c = .text
      · rw [if_pos (isText_iff.2 htext)]
        cases hblank : (t.value c).toList.all isCollapsible with
        -- a blank text goes, and the child before it is looked at
        | true =>
          obtain ⟨back, later⟩ := ih (t.detach c) (ht.detach c)
          exact ⟨back ++ [c], (cut_detach_last ht ⟨htext, hblank⟩ hchildren).trans later⟩
        | false =>
          refine ⟨[], cut_setValue ht ?_ htext ?_⟩
          · rw [if_neg Bool.false_ne_true, setValue, ht.children_modifyPayload, hchildren,
              List.getLast?_concat]
            rfl
          · rwa [String.toList_ofList, Text.all_trimEndWhile]
      · rw [if_neg (mt isText_iff.1 htext)]
        exact ⟨[], Cut.refl p _ t⟩

/-- What is not cut off at the end still begins with what it began with. -/
theorem Cut.mem_head? (h : Cut p edge t u [] back) (hc : c ∈ (t.children p).head?)
    (hfilled : ¬ t.IsBlankText c) : c ∈ (u.children p).head? := by
  rw [h.children, List.nil_append] at hc
  cases hchildren : u.children p with
  | nil =>
    rw [hchildren, List.nil_append] at hc
    exact absurd (h.blank c (List.mem_of_mem_head? hc)) hfilled
  | cons d rest => simpa [hchildren] using hc

/-- The node stands first or last among the children of `p`. -/
def AtEdge (t : Tree) (p c : NodeId) : Prop :=
  c ∈ (t.children p).head? ∨ c ∈ (t.children p).getLast?

/-- First the start is trimmed and then the end; what stood first after that may be trimmed once
more, when it stands last too. -/
theorem exists_cut_trimContent (ht : t.IsForest) (p : NodeId) :
    ∃ front back, Cut p (AtEdge (t.trimContent p) p) t (t.trimContent p) front back := by
  obtain ⟨front, start⟩ := exists_cut_trimStart (p := p) t.size t ht
  obtain ⟨back, finish⟩ := exists_cut_trimEnd (p := p) (trimStart t.size t p).size
    (trimStart t.size t p) ((trims_trimStart t.size p t).isForest ht)
  refine ⟨front ++ [], back ++ [], Cut.trans ?_ (finish.mono fun c hc _ => Or.inr hc)⟩
  exact start.mono fun c hc hfilled => Or.inl (finish.mem_head? hc hfilled)

/-! ## What is printed afterwards

The row after the edits is the trimmed row, and the two parts are put together. -/

/-- What is printed of a node is what is printed of its row. -/
theorem innerHtml_eq_row (ht : t.IsForest) (hp : (t.label p).isLeaf = false) :
    t.innerHtml p = Node.writeAll (Node.isRawTextTag (t.tagName p)) (t.row p) := by
  rw [innerHtml_eq_contents hp, contents_of_inner ht hp, row]
  rfl

/-- The document stands nowhere but at the root. -/
theorem WellFormed.kind_ne_document (h : t.WellFormed) (hroot : root ∉ t.children p) :
    ∀ r ∈ t.row p, r.kind ≠ .document := by
  intro r hr
  obtain ⟨c, hc, rfl⟩ := List.mem_map.1 hr
  rw [kind_contents, Ne, h.label_eq_document (Arena.index_lt_of_parent (h.forest.mem_iff.1 hc))]
  rintro rfl
  exact hroot hc

/-- **Trimming** a node trims what is printed of its content. Blank texts go from the two ends of
the children, and no other node changes than the texts that come to stand at these ends. -/
theorem trimContent_trims_innerHtml (h : t.WellFormed) {id : NodeId}
    (hid : (t.label id).isLeaf = false) (hroot : root ∉ t.children id) :
    (t.trimContent id).innerHtml id = Text.mapChars Text.trimCollapsible (t.innerHtml id) ∧
      (t.trimContent id).WellFormed ∧
      ∃ front back, Cut id (AtEdge (t.trimContent id) id) t (t.trimContent id) front back := by
  have trims := trims_trimContent t id
  refine ⟨?_, trims.wellFormed h, exists_cut_trimContent h.forest id⟩
  have inner := h.kind_ne_document hroot
  have innerStart : ∀ r ∈ Row.trimStart (t.row id), r.kind ≠ .document := by
    intro r hr
    rcases Row.mem_trimFirst hr with hr | htext
    · exact inner r hr
    · rw [htext]
      exact Label.noConfusion
  have tag : (t.trimContent id).tagName id = t.tagName id := by
    rw [tagName, tagName, trims.label_eq]
  rw [innerHtml_eq_row (trims.isForest h.forest) (by rwa [trims.label_eq]),
    innerHtml_eq_row h.forest hid, (makesRow_trimContent h.forest id).row, tag]
  refine String.toList_inj.1 ?_
  rw [Row.toList_writeAll_trimEnd _ innerStart, Row.toList_writeAll_trimStart _ inner,
    Text.toList_mapChars, Text.trimCollapsible]

/-- A paragraph with texts of white space and an empty one before a no-break space, with a comment
and an element between the texts, and with a space after markup that is only text. -/
def padded : Tree :=
  Tree.empty.run
    [.createElement "p" [], .createText " \n", .createText "", .createText " \u00a0& ",
      .createComment " c ", .createElement "br" [], .createText "<b> \t", .createText " ",
      .append root ⟨1⟩, .append ⟨1⟩ ⟨2⟩, .append ⟨1⟩ ⟨3⟩, .append ⟨1⟩ ⟨4⟩, .append ⟨1⟩ ⟨5⟩,
      .append ⟨1⟩ ⟨6⟩, .append ⟨1⟩ ⟨7⟩, .append ⟨1⟩ ⟨8⟩]

theorem wellFormed_padded : padded.WellFormed :=
  WellFormed.run _ wellFormed_empty (allAllowed_of_areAllowed (by decide +kernel))

theorem trimContent_trims_innerHtml_padded :
    padded.WellFormed ∧ (padded.label ⟨1⟩).isLeaf = false ∧ root ∉ padded.children ⟨1⟩ ∧
      padded.innerHtml ⟨1⟩ = " \n &nbsp;&amp; <!-- c --><br>&lt;b&gt; \t " ∧
      (padded.trimContent ⟨1⟩).innerHtml ⟨1⟩ = "&nbsp;&amp; <!-- c --><br>&lt;b&gt;" ∧
      ∃ front back, Cut ⟨1⟩ (AtEdge (padded.trimContent ⟨1⟩) ⟨1⟩) padded (padded.trimContent ⟨1⟩)
        front back := by
  have leaf : (padded.label ⟨1⟩).isLeaf = false := by decide +kernel
  have apart : root ∉ padded.children ⟨1⟩ := by decide +kernel
  have printed : padded.innerHtml ⟨1⟩ = " \n &nbsp;&amp; <!-- c --><br>&lt;b&gt; \t " := by
    decide +kernel
  obtain ⟨trimmed, -, cut⟩ := trimContent_trims_innerHtml wellFormed_padded leaf apart
  refine ⟨wellFormed_padded, leaf, apart, printed, ?_, cut⟩
  rw [trimmed, printed]
  decide +kernel

end Tree

end Tagdown
