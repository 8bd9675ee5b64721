import Tagdown.Html.Token

/-!
# Elements by their names

Every element belongs to HTML, to SVG or to MathML, and the rules for placing it go by its
name in that language. Here are the sets of names that the rules distinguish, and the
spellings of attributes in the two other languages.
-/

namespace Tagdown.Html

/-- The language of an element. -/
inductive Language where
  | html
  | svg
  | mathml
deriving DecidableEq

/-- The full name of an element; the tag is in lower case in every language. -/
structure ElementName where
  language : Language
  tag : String
deriving DecidableEq

namespace ElementName

/-- An element of HTML with this tag. -/
def html (tag : String) : ElementName := ⟨.html, tag⟩

/-- The element is one of HTML with one of these tags. -/
def isHtmlIn (name : ElementName) (tags : List String) : Bool :=
  name.language == .html && tags.contains name.tag

/-- Text and most elements inside are treated as HTML. -/
def isTextIntegrationPoint (name : ElementName) : Bool :=
  name.language == .mathml && ["mi", "mo", "mn", "ms", "mtext"].contains name.tag

/-- All that is inside is treated as HTML. -/
def isHtmlIntegrationPoint (name : ElementName) : Bool :=
  name.language == .svg && ["foreignobject", "desc", "title"].contains name.tag

/-- Nothing outside of the element can be closed from inside it, as a rule. -/
def boundsScope (name : ElementName) : Bool :=
  name.isHtmlIn
      ["applet", "caption", "html", "table", "td", "th", "marquee", "object", "template"]
    || name.isTextIntegrationPoint || name.isHtmlIntegrationPoint

/-- The rule for items of a list: no list outside of another one either. -/
def boundsListItemScope (name : ElementName) : Bool :=
  name.boundsScope || name.isHtmlIn ["ol", "ul"]

/-- The rule for paragraphs: nothing outside of a button either. -/
def boundsButtonScope (name : ElementName) : Bool :=
  name.boundsScope || name.isHtmlIn ["button"]

/-- The rule for the parts of tables. -/
def boundsTableScope (name : ElementName) : Bool :=
  name.isHtmlIn ["html", "table", "template"]

/-- The rule for selections: only choices can lie in between. -/
def boundsSelectScope (name : ElementName) : Bool :=
  !name.isHtmlIn ["optgroup", "option"]

end ElementName

/-! ## Sets of tags -/

/-- Elements that are closed by what comes after them. -/
def impliedEndTags : List String :=
  ["dd", "dt", "li", "option", "optgroup", "p", "rb", "rp", "rt", "rtc"]

/-- The same with the parts of tables. -/
def thoroughImpliedEndTags : List String :=
  impliedEndTags ++ ["caption", "colgroup", "tbody", "td", "tfoot", "th", "thead", "tr"]

def headingTags : List String :=
  ["h1", "h2", "h3", "h4", "h5", "h6"]

/-- Elements with a place of their own in the structure of a document. -/
def specialTags : List String :=
  ["address", "applet", "area", "article", "aside", "base", "basefont", "bgsound",
   "blockquote", "body", "br", "button", "caption", "center", "col", "colgroup", "dd",
   "details", "dir", "div", "dl", "dt", "embed", "fieldset", "figcaption", "figure", "footer",
   "form", "frame", "frameset", "h1", "h2", "h3", "h4", "h5", "h6", "head", "header", "hgroup",
   "hr", "html", "iframe", "img", "input", "isindex", "li", "link", "listing", "main",
   "marquee", "menu", "meta", "nav", "noembed", "noframes", "noscript", "object", "ol", "p",
   "param", "plaintext", "pre", "script", "section", "select", "source", "style", "summary",
   "table", "tbody", "td", "template", "textarea", "tfoot", "th", "thead", "title", "tr",
   "track", "ul", "wbr", "xmp"]

/-- Elements that close a paragraph when they begin. -/
def blockStartTags : List String :=
  ["address", "article", "aside", "blockquote", "center", "details", "dialog", "dir", "div",
   "dl", "fieldset", "figcaption", "figure", "footer", "header", "hgroup", "main", "menu",
   "nav", "ol", "p", "search", "section", "summary", "ul"]

/-- Elements that close what is still open in them when they end. -/
def blockEndTags : List String :=
  ["address", "article", "aside", "blockquote", "button", "center", "details", "dialog",
   "dir", "div", "dl", "fieldset", "figcaption", "figure", "footer", "header", "hgroup",
   "listing", "main", "menu", "nav", "ol", "pre", "search", "section", "summary",
   "ul"]

/-- Elements of formatting, which are opened again where they were closed out of order. Links
are too, but follow a rule of their own. -/
def formattingTags : List String :=
  ["b", "big", "code", "em", "font", "i", "s", "small", "strike", "strong", "tt", "u"]

/-- Elements that bound the reopening of formatting elements. -/
def objectTags : List String :=
  ["applet", "marquee", "object"]

/-- Elements without content within a line. -/
def voidInlineTags : List String :=
  ["area", "br", "embed", "img", "keygen", "wbr", "input"]

/-- Elements without content that are no part of a line. -/
def voidMetaTags : List String :=
  ["param", "source", "track"]

/-- Elements that belong into the head of a document and are let be elsewhere. -/
def headTags : List String :=
  ["base", "basefont", "bgsound", "link", "meta", "noframes", "script", "style", "template",
   "title"]

/-- Tags that mean nothing where text is expected. -/
def strayTags : List String :=
  ["html", "body", "frameset", "caption", "col", "colgroup", "frame", "head", "tbody", "td",
   "tfoot", "th", "thead", "tr"]

/-- The parts of a table that hold rows. -/
def tableSectionTags : List String :=
  ["tbody", "tfoot", "thead"]

/-- The elements in which text has no place, and is moved before the table. -/
def tableStructureTags : List String :=
  ["table", "tbody", "tfoot", "thead", "tr"]

/-- Tags that end whatever is open in a table. -/
def tablePartTags : List String :=
  ["caption", "col", "colgroup", "tbody", "td", "tfoot", "th", "thead", "tr"]

/-- Elements of HTML that end an image or a formula that they stand in. -/
def breakoutTags : List String :=
  ["b", "big", "blockquote", "body", "br", "center", "code", "dd", "div", "dl", "dt", "em",
   "embed", "h1", "h2", "h3", "h4", "h5", "h6", "head", "hr", "i", "img", "li", "listing",
   "menu", "meta", "nobr", "ol", "p", "pre", "ruby", "s", "small", "span", "strong", "strike",
   "sub", "sup", "table", "tt", "u", "ul", "var"]

/-! ## Attributes of other languages -/

/-- The attributes of SVG with capital letters. -/
def svgAttributes : List String :=
  ["attributeName", "attributeType", "baseFrequency", "baseProfile", "calcMode",
   "clipPathUnits", "diffuseConstant", "edgeMode", "filterUnits", "glyphRef",
   "gradientTransform", "gradientUnits", "kernelMatrix", "kernelUnitLength", "keyPoints",
   "keySplines", "keyTimes", "lengthAdjust", "limitingConeAngle", "markerHeight",
   "markerUnits", "markerWidth", "maskContentUnits", "maskUnits", "numOctaves", "pathLength",
   "patternContentUnits", "patternTransform", "patternUnits", "pointsAtX", "pointsAtY",
   "pointsAtZ", "preserveAlpha", "preserveAspectRatio", "primitiveUnits", "refX", "refY",
   "repeatCount", "repeatDur", "requiredExtensions", "requiredFeatures", "specularConstant",
   "specularExponent", "spreadMethod", "startOffset", "stdDeviation", "stitchTiles",
   "surfaceScale", "systemLanguage", "tableValues", "targetX", "targetY", "textLength",
   "viewBox", "viewTarget", "xChannelSelector", "yChannelSelector", "zoomAndPan"]

/-- The attributes of MathML with capital letters. -/
def mathmlAttributes : List String :=
  ["definitionURL"]

/-- The attributes that belong to a third language, with the names that they have there. -/
def foreignAttributes : List (String × String) :=
  [("xlink:actuate", "actuate"), ("xlink:arcrole", "arcrole"), ("xlink:href", "href"),
   ("xlink:role", "role"), ("xlink:show", "show"), ("xlink:title", "title"),
   ("xlink:type", "type"), ("xml:lang", "lang"), ("xml:space", "space"),
   ("xmlns", "xmlns"), ("xmlns:xlink", "xlink")]

/-- The name of an attribute in the given language, for a name in lower case. -/
def attributeName (language : Language) (name : String) : String :=
  let spelled := match language with
    | .html => none
    | .svg => svgAttributes.find? (Text.asciiLower · == name)
    | .mathml => mathmlAttributes.find? (Text.asciiLower · == name)
  match spelled with
  | some spelled => spelled
  | none => ((foreignAttributes.find? (·.1 == name)).map Prod.snd).getD name

/-- The attributes of an element of another language. -/
def adjustAttributes (language : Language) (attributes : List Attribute) : List Attribute :=
  attributes.map fun a => { a with name := attributeName language a.name }

end Tagdown.Html
