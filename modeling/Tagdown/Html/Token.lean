import Tagdown.Document.Tree

/-!
# The tokens of HTML

What a text is cut into before it becomes a tree: tags, comments and single characters. How it
is cut depends on the element that it is in. `ContentModel` says which of the ways is in force;
whoever builds the tree sets it after a tag that calls for another one.
-/

namespace Tagdown.Html

open Text (asciiLowerChar)

/-- A tag that opens an element. -/
structure StartTag where
  name : String
  attributes : List Attribute := []
  /-- written with a slash before its end -/
  selfClosing : Bool := false
deriving DecidableEq

/-- A token of HTML. -/
inductive Token where
  | startTag (tag : StartTag)
  | endTag (name : String)
  | comment (value : String)
  | char (c : Char)
  /-- Markup that leaves no trace: a document type declaration, a tag without a name, or a fault
  in a character reference. It only parts what stands on its two sides. -/
  | gap

/-- Where a script stands with respect to the comments that hide it from old browsers. A script
cannot end inside a script inside such a comment. `dashes` counts the hyphens right before, up
to two. -/
inductive ScriptState where
  | plain
  | escaped (dashes : Nat)
  | doubleEscaped (dashes : Nat)

/-- How the text is to be read. -/
inductive ContentModel where
  /-- with tags, comments and character references -/
  | data
  /-- with character references, up to the tag that closes this element -/
  | rcdata (tag : String)
  /-- as it is, up to the tag that closes this element -/
  | rawText (tag : String)
  /-- as a script -/
  | script (state : ScriptState)
  /-- as it is, up to the end -/
  | plaintext

/-- What stands for a character that no document may have. -/
def replacementChar : Char := Char.ofNat 0xFFFD

/-- The character, or its replacement if it is NUL. -/
def replaceNul (c : Char) : Char :=
  if c = '\x00' then replacementChar else c

/-- The white space of HTML. -/
def isSpace (c : Char) : Bool :=
  c == '\t' || c == '\n' || c == '\x0c' || c == '\r' || c == ' '

/-- A name as it was written, in lower case and without NUL. -/
def nameOf (s : List Char) : String :=
  String.ofList (s.map fun c => replaceNul (asciiLowerChar c))

/-- Every line end as a line feed. -/
def normalizeLineEnds : List Char → List Char
  | [] => []
  | '\r' :: '\n' :: rest => '\n' :: normalizeLineEnds rest
  | '\r' :: rest => '\n' :: normalizeLineEnds rest
  | c :: rest => c :: normalizeLineEnds rest

/-- Leave out a byte order mark at the beginning. -/
def dropByteOrderMark : List Char → List Char
  | [] => []
  | c :: rest => if c = Char.ofNat 0xFEFF then rest else c :: rest

/-- The text that is cut into tokens. -/
def preprocess (html : String) : List Char :=
  dropByteOrderMark (normalizeLineEnds html.toList)

end Tagdown.Html
