import Tagdown.Entity.Decode
import Tagdown.Rule.Basic
import Tagdown.Text.Tidy

/-!
# The bundled rules

The rules for the elements that Markdown has a form for, in the order in which they are tried.
When a rule comes to an element, all that is inside it is Markdown already.
-/

namespace Tagdown

/-- Replace the character references of a text by what they stand for. -/
def decodeEntities (s : String) : String :=
  Text.mapChars Entity.decode s

namespace Rule

open Text (mapChars)

/-- An attribute value without white space around it; nothing if there is no attribute. -/
def cleanAttribute (value : Option String) : String :=
  mapChars Text.trim (value.getD "")

/-- A space and the title of an element between double quotes, if it has one. -/
def titlePart (node : NodeRef) : String :=
  let title := cleanAttribute (node.attribute? "title")
  if title = "" then "" else " \"" ++ title ++ "\""

/-- Put an indentation of four spaces after every newline. -/
def indentLines (s : List Char) : List Char :=
  s.flatMap fun c => if c = '\n' then "\n    ".toList else [c]

/-- Put `> ` before every line. -/
def quoteLines (s : List Char) : List Char :=
  "> ".toList ++ s.flatMap fun c => if c = '\n' then "\n> ".toList else [c]

/-- A blank line before and after. -/
def asBlock (s : String) : String :=
  "\n\n" ++ s ++ "\n\n"

/-! ## Blocks -/

def paragraph : Rule :=
  forTag "p" fun content _ _ => asBlock content

/-- The number after the first letter of a tag, and one if there is none. A plus sign before
it is allowed, and it must be below 2^64. -/
def headingLevel (tag : String) : Nat :=
  let digits := match tag.toList.drop 1 with
    | '+' :: digits => digits
    | digits => digits
  let level := Text.digitsValue 10 (digits.map fun c => c.toNat - '0'.toNat)
  if digits.isEmpty || !digits.all Text.isAsciiDigit || Nat.pow 2 64 ≤ level then 1 else level

def heading : Rule :=
  forTags ["h1", "h2", "h3", "h4", "h5", "h6"] fun content node _ =>
    asBlock (String.ofList (List.replicate (headingLevel node.tagName) '#') ++ " " ++ content)

def horizontalRule : Rule :=
  forTag "hr" fun _ _ _ => asBlock "* * *"

/-- The text of the element, whatever its markup was. -/
def codeBlock : Rule :=
  forTag "pre" fun _ node _ =>
    asBlock ("    " ++ mapChars (fun s => indentLines (Text.trimEndWhile (· == '\n') s))
      node.textContent)

def blockquote : Rule :=
  forTag "blockquote" fun content _ _ =>
    asBlock (mapChars (fun s => quoteLines (Text.collapseNewlines (Text.trim s))) content)

/-! ## Lists -/

/-- What begins an item: its number in an ordered list, and a bullet elsewhere. -/
def itemMarker (node : NodeRef) : String :=
  match node.parent? with
  | some parent =>
    if parent.tagName = "ol" then toString node.elementIndex ++ ".  " else "*   "
  | none => "*   "

def listItem : Rule :=
  forTag "li" fun content node _ =>
    itemMarker node ++ mapChars (fun s => indentLines (Text.trim s)) content ++ "\n"

/-- A list inside an item begins on the next line; any other stands as a block. -/
def list : Rule :=
  forTags ["ul", "ol"] fun content node _ =>
    let content := mapChars (Text.trimEndWhile Text.isWhitespace) content
    if node.parent?.any fun parent => parent.tagName == "li" then "\n" ++ content
    else asBlock content

/-! ## Within a line -/

def lineBreak : Rule :=
  forTag "br" fun _ _ _ => "  \n"

def emphasis : Rule :=
  forTags ["em", "i"] fun content _ _ => "_" ++ content ++ "_"

def strong : Rule :=
  forTags ["strong", "b"] fun content _ _ => "**" ++ content ++ "**"

/-- The node is all that a `pre` has in it. -/
def isCodeBlock (node : NodeRef) : Bool :=
  (node.parent?.any fun parent => parent.tagName == "pre")
    && node.previousSibling?.isNone && node.nextSibling?.isNone

def inlineCode : Rule :=
  ofFunction (.predicate fun node _ => node.tagName == "code" && !isCodeBlock node)
    fun content _ _ => "`" ++ content ++ "`"

def inlineLink : Rule :=
  ofFunction
    (.predicate fun node _ => node.tagName == "a" && (node.attribute? "href").any (· != ""))
    fun content node _ =>
      "[" ++ content ++ "](" ++ (node.attribute? "href").getD "" ++ titlePart node ++ ")"

/-- An image without a source is left out. -/
def image : Rule :=
  forTag "img" fun _ node _ =>
    let src := cleanAttribute (node.attribute? "src")
    if src = "" then ""
    else "![" ++ (node.attribute? "alt").getD "" ++ "](" ++ src ++ titlePart node ++ ")"

/-! ## The table -/

/-- The bundled rules with their names, in the order in which they are tried. -/
def standard : List (String × Rule) :=
  [("paragraph", paragraph),
   ("line_break", lineBreak),
   ("heading", heading),
   ("horizontal_rule", horizontalRule),
   ("emphasis", emphasis),
   ("strong", strong),
   ("inline_code", inlineCode),
   ("inline_link", inlineLink),
   ("image", image),
   ("code_block", codeBlock),
   ("blockquote", blockquote),
   ("list_item", listItem),
   ("list", list)]

end Rule

end Tagdown
