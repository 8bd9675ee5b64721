import Tagdown.Proofs.Document.History
import Tagdown.Proofs.Document.Markup

/-!
# Printed texts and attributes

What is printed is meant to be read again: the texts in a node, and the value of an attribute
between its quotes (`decoding_undoes_printing`). The texts are printed one by one and nothing stands
between them, so two of them might form a reference together that is in neither. They do not, since
every `&` of theirs has become a reference of its own.

This holds where texts are printed as references, that is not directly under elements with raw text.
-/

namespace Tagdown

/-- The value of an attribute is printed between quotes, has none in it, and is read back. -/
theorem Node.exists_writeAttribute (a : Attribute) :
    ∃ written : String, writeAttribute a = " " ++ a.name ++ "=\"" ++ written ++ "\"" ∧
      '"' ∉ written.toList ∧ decodeEntities written = a.value := by
  refine ⟨Text.mapChars Entity.encodeAttribute a.value, rfl, ?_, String.toList_inj.1 ?_⟩
  · rw [Text.toList_mapChars]
    exact Entity.quote_not_mem_encodeAttribute _
  · rw [decodeEntities, Text.toList_mapChars, Text.toList_mapChars, Entity.decode_encodeAttribute]

namespace Tree

variable {t : Tree} {id : NodeId}

/-- An element is printed with its tag and its attributes first. -/
theorem exists_outerHtml (h : t.IsForest) {tag : String} {attributes : List Attribute}
    (hlabel : t.label id = .element tag attributes) :
    ∃ rest, t.outerHtml id =
      "<" ++ tag ++ String.join (attributes.map Node.writeAttribute) ++ rest := by
  have hnode : (t.node id).label = .element tag attributes := hlabel
  rw [outerHtml, markup_eq h, Node.write, hnode]
  simp only [Node.openTag]
  split
  · exact ⟨_, rfl⟩
  · exact ⟨_, by rw [String.append_assoc, String.append_assoc]⟩

/-- **Decoding undoes printing.** If a node has nothing but texts in it, and its texts are not
printed raw, then what is inside it is read back as the values of these texts, whatever they look
like and wherever one ends and the next begins. The value of an attribute stands between its quotes
in the printed element, and is read back as it was. -/
theorem decoding_undoes_printing (h : t.IsForest) (id : NodeId) :
    ((∀ x ∈ t.children id, t.label x = .text) → Node.isRawTextTag (t.tagName id) = false →
      decodeEntities (t.innerHtml id) = t.values (t.children id)) ∧
    ∀ tag before a after, t.label id = .element tag (before ++ a :: after) →
      ∃ written rest : String, t.outerHtml id =
          "<" ++ tag ++ String.join (before.map Node.writeAttribute) ++
            (" " ++ a.name ++ "=\"" ++ written ++ "\"") ++ rest ∧
        '"' ∉ written.toList ∧ decodeEntities written = a.value := by
  refine ⟨fun texts hraw => ?_, fun tag before a after hlabel => ?_⟩
  · rw [innerHtml_of_texts h texts, hraw, decodeEntities_writeText]
  · obtain ⟨rest, hprinted⟩ := exists_outerHtml h hlabel
    obtain ⟨written, hwritten, hquote, hread⟩ := Node.exists_writeAttribute a
    refine ⟨written, String.join (after.map Node.writeAttribute) ++ rest, ?_, hquote, hread⟩
    rw [hprinted, List.map_append, List.map_cons, String.join_append, String.join_cons, hwritten]
    simp only [String.append_assoc]

/-- A paragraph with two texts that form a reference together, and with references and quotes in
the value of an attribute. -/
def riddle : Tree :=
  Tree.empty.run
    [.createElement "p" [⟨"lang", "en"⟩, ⟨"title", "\"&quot;\" &\u00a0co"⟩], .append root ⟨1⟩,
     .createText "a &am", .append ⟨1⟩ ⟨2⟩, .createText "p;\u00a0&lt; <b>", .append ⟨1⟩ ⟨3⟩]

theorem decoding_undoes_printing_riddle :
    riddle.IsForest ∧ (∀ x ∈ riddle.children ⟨1⟩, riddle.label x = .text) ∧
      Node.isRawTextTag (riddle.tagName ⟨1⟩) = false ∧
      decodeEntities (riddle.innerHtml ⟨1⟩) = "a &amp;\u00a0&lt; <b>" ∧
      riddle.label ⟨1⟩ = .element "p" ([⟨"lang", "en"⟩] ++ ⟨"title", "\"&quot;\" &\u00a0co"⟩ :: []) ∧
      ∃ written rest : String,
        riddle.outerHtml ⟨1⟩ = "<p lang=\"en\"" ++ (" title=\"" ++ written ++ "\"") ++ rest ∧
          '"' ∉ written.toList ∧ decodeEntities written = "\"&quot;\" &\u00a0co" := by
  have h : riddle.WellFormed := Tree.WellFormed.run _ Tree.wellFormed_empty
    (Tree.allAllowed_of_areAllowed (by decide +kernel))
  have texts : ∀ x ∈ riddle.children ⟨1⟩, riddle.label x = .text := by decide +kernel
  have hlabel : riddle.label ⟨1⟩ =
      .element "p" ([⟨"lang", "en"⟩] ++ ⟨"title", "\"&quot;\" &\u00a0co"⟩ :: []) := by decide +kernel
  obtain ⟨content, attributes⟩ := decoding_undoes_printing h.forest ⟨1⟩
  obtain ⟨written, rest, hprinted, hquote, hread⟩ := attributes _ _ _ _ hlabel
  refine ⟨h.forest, texts, by decide +kernel, ?_, hlabel, written, rest, ?_, hquote, hread⟩
  · rw [content texts (by decide +kernel)]
    decide +kernel
  · have front : "<" ++ "p" ++ String.join ([⟨"lang", "en"⟩].map Node.writeAttribute) =
        "<p lang=\"en\"" := by decide +kernel
    have name : " " ++ "title" ++ "=\"" = " title=\"" := by decide
    rw [hprinted, front, name]

end Tree

end Tagdown
