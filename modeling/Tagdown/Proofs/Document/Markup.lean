import Tagdown.Document.Serialize
import Tagdown.Proofs.Arena.Height
import Tagdown.Proofs.Entity.RoundTrip
import Tagdown.Rule.Standard

/-!
# Printing texts

In a forest the markup of a node is opened one level at a time (`markup_eq`). A node in which
there is nothing but texts prints as one text, the values of all of them put together
(`Tree.values`), and gives back these values when it is read again.
-/

namespace Tagdown

namespace Tree

variable {t : Tree}

/-- The values of some nodes, one after the other. -/
def values (t : Tree) (ids : List NodeId) : String :=
  String.join (ids.map t.value)

@[simp] theorem values_nil (t : Tree) : t.values [] = "" := rfl

theorem values_cons (t : Tree) (id : NodeId) (ids : List NodeId) :
    t.values (id :: ids) = t.value id ++ t.values ids := by
  rw [values, List.map_cons, String.join_cons, values]

@[simp] theorem values_singleton (t : Tree) (id : NodeId) : t.values [id] = t.value id := by
  rw [values_cons, values_nil, String.append_empty]

/-- The values of a row are read from left to right. -/
theorem values_append (t : Tree) (ids ids' : List NodeId) :
    t.values (ids ++ ids') = t.values ids ++ t.values ids' := by
  rw [values, List.map_append, String.join_append, values, values]

/-- They depend on what these nodes hold and on nothing else. -/
theorem values_congr {u : Tree} {ids : List NodeId} (h : ∀ x ∈ ids, u.node x = t.node x) :
    u.values ids = t.values ids := by
  have same : ∀ x ∈ ids, u.value x = t.value x := fun x hx => congrArg Node.value (h x hx)
  rw [values, values, List.map_congr_left same]

/-- The document as a term, one level of it: the node over its children. -/
theorem markup_eq (h : t.IsForest) (id : NodeId) :
    t.markup id = .node (t.node id) ((t.children id).map t.markup) := by
  rw [markup, h.subtree_eq, Rose.map, Rose.mapAll_eq_map, List.map_map]
  rfl

end Tree

namespace Entity

open Text (isCollapsible)

/-- White space is written as it is. -/
theorem encodeTextChar_of_isCollapsible {c : Char} (hc : isCollapsible c = true) :
    encodeTextChar c = [c] := by
  refine encodeTextChar_eq_self fun hmem => ?_
  simp only [List.mem_cons, List.not_mem_nil, or_false] at hmem
  obtain rfl | rfl | rfl | rfl := hmem <;> exact absurd hc (by decide)

/-- What is written for another character begins and ends with no white space. -/
theorem exists_encodeTextChar {c : Char} (hc : isCollapsible c = false) :
    ∃ b e, (encodeTextChar c).head? = some b ∧ (encodeTextChar c).getLast? = some e ∧
      isCollapsible b = false ∧ isCollapsible e = false := by
  rcases cases_encodeTextChar c with hreference | ⟨hself, -⟩
  · have hends := (by decide : ∀ name ∈ textReferences,
      name.head? = some '&' ∧ name.getLast? = some ';') _ hreference
    exact ⟨'&', ';', hends.1, hends.2, by decide, by decide⟩
  · rw [hself]
    exact ⟨c, c, rfl, rfl, hc, hc⟩

/-- A text is blank just if its escaped form is, which is how blankness is asked of printed
content. -/
theorem all_encodeText (s : List Char) :
    (encodeText s).all isCollapsible = s.all isCollapsible := by
  have written : ∀ c, (encodeTextChar c).all isCollapsible = isCollapsible c := by
    intro c
    cases hc : isCollapsible c with
    | true => rw [encodeTextChar_of_isCollapsible hc, List.all_cons, hc, List.all_nil]; rfl
    | false =>
      obtain ⟨b, -, hb, -, hnot, -⟩ := exists_encodeTextChar hc
      obtain ⟨rest, hrest⟩ := List.head?_eq_some_iff.1 hb
      rw [hrest, List.all_cons, hnot, Bool.false_and]
  rw [encodeText, List.all_flatMap, funext written]

end Entity

namespace Node

@[simp] theorem writeText_empty (raw : Bool) : writeText raw "" = "" := by
  cases raw <;> rfl

/-- Texts are escaped character by character, so texts side by side are printed as one. -/
theorem writeText_append (raw : Bool) (s s' : String) :
    writeText raw (s ++ s') = writeText raw s ++ writeText raw s' := by
  cases raw with
  | true => rfl
  | false =>
    refine String.toList_inj.1 ?_
    simp [writeText]

/-- What prints as white space is white space. -/
theorem isBlank_of_writeText {raw : Bool} {s : String}
    (h : Text.isBlank (writeText raw s).toList = true) : Text.isBlank s.toList = true := by
  cases raw with
  | true => exact h
  | false =>
    have written : ∀ c, Text.isBlank (Entity.encodeTextChar c) = true →
        Text.isWhitespace c = true := by
      intro c hc
      rcases Entity.cases_encodeTextChar c with hreference | ⟨hself, -⟩
      · exact absurd hc ((by decide : ∀ name ∈ Entity.textReferences,
          ¬ Text.isBlank name = true) _ hreference)
      · rw [hself] at hc
        simpa [Text.isBlank] using hc
    rw [writeText, if_neg Bool.false_ne_true, Text.toList_mapChars, Entity.encodeText, Text.isBlank,
      List.all_flatMap, List.all_eq_true] at h
    exact List.all_eq_true.2 fun c hc => written c (h c hc)

/-- Printed raw or escaped, a blank text stays blank and no other becomes so. -/
@[simp] theorem all_writeText (raw : Bool) (s : String) :
    (writeText raw s).toList.all Text.isCollapsible = s.toList.all Text.isCollapsible := by
  cases raw with
  | true => rfl
  | false => simp [writeText, Entity.all_encodeText]

/-- White space that is collapsed is printed as it is. -/
theorem isBlank_writeText {raw : Bool} {s : String}
    (h : s.toList.all Text.isCollapsible = true) :
    Text.isBlank (writeText raw s).toList = true :=
  Text.isBlank_of_all (by rwa [all_writeText])

/-- A text is printed by its value. -/
theorem write_of_text (raw : Bool) {n : Node} (hn : n.label = .text) (children : List (Rose Node)) :
    write raw (.node n children) = writeText raw n.value := by
  rw [write, hn]

/-- It is also read by its value. -/
theorem gatherText_of_text {n : Node} (hn : n.label = .text) (children : List (Rose Node)) :
    gatherText (.node n children) = n.value := by
  rw [gatherText, hn]

end Node

/-- What is written between tags is read back. -/
theorem decodeEntities_writeText (s : String) : decodeEntities (Node.writeText false s) = s := by
  refine String.toList_inj.1 ?_
  simp [decodeEntities, Node.writeText, Entity.decode_encodeText]

namespace Tree

variable {t : Tree}

/-- A row of texts is printed as the one text that they are together. -/
theorem writeAll_of_texts (h : t.IsForest) (raw : Bool) {ids : List NodeId}
    (texts : ∀ x ∈ ids, t.label x = .text) :
    Node.writeAll raw (ids.map t.markup) = Node.writeText raw (t.values ids) := by
  induction ids with
  | nil => rw [List.map_nil, Node.writeAll, values_nil, Node.writeText_empty]
  | cons x ids ih =>
    have hx : (t.node x).label = .text := texts x List.mem_cons_self
    rw [List.map_cons, Node.writeAll, ih fun y hy => texts y (List.mem_cons_of_mem x hy),
      markup_eq h, Node.write_of_text raw hx, values_cons, Node.writeText_append]
    rfl

/-- It is read as that text, without escapes. -/
theorem gatherTexts_of_texts (h : t.IsForest) {ids : List NodeId}
    (texts : ∀ x ∈ ids, t.label x = .text) :
    Node.gatherTexts (ids.map t.markup) = t.values ids := by
  induction ids with
  | nil => rfl
  | cons x ids ih =>
    have hx : (t.node x).label = .text := texts x List.mem_cons_self
    rw [List.map_cons, Node.gatherTexts, ih fun y hy => texts y (List.mem_cons_of_mem x hy),
      markup_eq h, Node.gatherText_of_text hx, values_cons]
    rfl

/-- Whether the content is escaped is up to the element that it stands in. -/
theorem innerHtml_of_texts (h : t.IsForest) {id : NodeId}
    (texts : ∀ x ∈ t.children id, t.label x = .text) :
    t.innerHtml id =
      Node.writeText (Node.isRawTextTag (t.tagName id)) (t.values (t.children id)) := by
  rw [innerHtml, markup_eq h, Rose.children, writeAll_of_texts h _ texts]

/-- For reading it makes no difference what the element is. -/
theorem textContent_of_texts (h : t.IsForest) {id : NodeId}
    (hid : t.label id = .document ∨ t.isElement id = true)
    (texts : ∀ x ∈ t.children id, t.label x = .text) :
    t.textContent id = t.values (t.children id) := by
  have gathered : Node.gatherTexts (t.markup id).children = t.values (t.children id) := by
    rw [markup_eq h, Rose.children, gatherTexts_of_texts h texts]
  rw [textContent, ← gathered]
  rw [isElement] at hid
  cases hlabel : t.label id with
  | document => rfl
  | element tag attributes => rfl
  | text => simp [hlabel, Label.isElement] at hid
  | comment => simp [hlabel, Label.isElement] at hid

end Tree

end Tagdown
