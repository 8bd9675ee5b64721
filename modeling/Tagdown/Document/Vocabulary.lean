/-!
# Sets of tags

The tags that HTML treats in a way of their own: elements that stand as blocks, elements
without content, elements whose white space is kept, and elements whose text is not escaped.

The first three are where a conversion starts from and can be changed for it. What the
serializer writes does not depend on such changes: it goes by the lists here.
-/

namespace Tagdown

/-- Elements that stand as blocks, so that the white space around them says nothing. -/
def defaultBlockTags : List String :=
  ["address", "article", "aside", "audio", "blockquote", "body", "canvas", "center", "dd",
   "dir", "div", "dl", "dt", "fieldset", "figcaption", "figure", "footer", "form", "frameset",
   "h1", "h2", "h3", "h4", "h5", "h6", "header", "hgroup", "hr", "html", "isindex", "li",
   "main", "menu", "nav", "noframes", "noscript", "ol", "output", "p", "pre", "section",
   "table", "tbody", "td", "tfoot", "th", "thead", "tr", "ul"]

/-- Elements that have no content. -/
def defaultVoidTags : List String :=
  ["area", "base", "br", "col", "command", "embed", "hr", "img", "input", "keygen", "link",
   "meta", "param", "source", "track", "wbr"]

/-- Elements whose white space is kept. -/
def defaultPreformattedTags : List String :=
  ["pre", "code"]

/-- Elements whose text is written as it is, without character references. -/
def rawTextTags : List String :=
  ["script", "style", "xmp", "iframe", "noembed", "noframes", "plaintext"]

end Tagdown
