import Tagdown.Regex.CharClass
import Tagdown.Regex.Relation

/-!
# Patterns and what they match

An `Expr` is a pattern in the usual sense, with assertions about the place in the text.
`Expr.matchesIn` relates the places where a match can begin to those where it can end, and so
no choice of one match over another comes in. Each part of a pattern is looked at once,
however patterns are nested, and a number of repetitions counts by its number of digits only.

A `Regex` is a pattern together with the text that it was written as. It matches a text when
it matches somewhere in it.
-/

namespace Tagdown

namespace Regex

/-- A condition on a place in a text. -/
inductive Assertion where
  | textStart
  | textEnd
  /-- after a line feed or where the text begins; also after a carriage return if `crlf` -/
  | lineStart (crlf : Bool)
  /-- before a line feed or where the text ends; also before a carriage return if `crlf` -/
  | lineEnd (crlf : Bool)
  /-- between a character of a word and what is none, in either order -/
  | wordBoundary (ascii : Bool)
  | notWordBoundary (ascii : Bool)
  /-- a word begins here -/
  | wordStart (ascii : Bool)
  /-- a word ends here -/
  | wordEnd (ascii : Bool)
  /-- no character of a word comes before -/
  | wordStartHalf (ascii : Bool)
  /-- no character of a word follows -/
  | wordEndHalf (ascii : Bool)

/-- The character right before place `i`. -/
def charBefore? (text : Array Char) (i : Nat) : Option Char :=
  if i = 0 then none else text[i - 1]?

/-- The character is there and belongs to a word. -/
def isWordChar (ascii : Bool) (c? : Option Char) : Bool :=
  c?.any fun c => if ascii then isAsciiWord c else wordSet.contains c

/-- The condition holds at place `i`. Between a carriage return and the line feed after it
no line begins or ends. -/
def Assertion.holds (text : Array Char) (i : Nat) (assertion : Assertion) : Bool :=
  let before := charBefore? text i
  let after := text[i]?
  match assertion with
  | textStart => i == 0
  | textEnd => i == text.size
  | lineStart crlf =>
    i == 0 || before == some '\n' || (crlf && before == some '\r' && after != some '\n')
  | lineEnd crlf =>
    i == text.size || (after == some '\n' && !(crlf && before == some '\r'))
      || (crlf && after == some '\r')
  | wordBoundary ascii => isWordChar ascii before != isWordChar ascii after
  | notWordBoundary ascii => isWordChar ascii before == isWordChar ascii after
  | wordStart ascii => !isWordChar ascii before && isWordChar ascii after
  | wordEnd ascii => isWordChar ascii before && !isWordChar ascii after
  | wordStartHalf ascii => !isWordChar ascii before
  | wordEndHalf ascii => !isWordChar ascii after

/-- A pattern. -/
inductive Expr where
  | empty
  | chars (cls : CharClass)
  | assertion (a : Assertion)
  | concat (a b : Expr)
  | alternation (a b : Expr)
  /-- at least `min` times, and at most `max` times if that is given -/
  | repetition (a : Expr) (min : Nat) (max : Option Nat)
  /-- a group that keeps what it has matched; that is not asked for here -/
  | capture (a : Expr)

/-- The matches of a pattern in a text: each place where one can begin is related to those
where it can end. -/
def Expr.matchesIn (text : Array Char) : Expr → Relation
  | empty => .identity (text.size + 1)
  | chars cls =>
    .ofRows (text.size + 1) fun i => if text[i]?.any cls.contains then 1 <<< (i + 1) else 0
  | assertion a => .ofRows (text.size + 1) fun i => if a.holds text i then 1 <<< i else 0
  | concat a b => (a.matchesIn text).comp (b.matchesIn text)
  | alternation a b => (a.matchesIn text).union (b.matchesIn text)
  | repetition a min max =>
    let once := a.matchesIn text
    let further := match max with
      | some max => (once.union (.identity once.size)).power (max - min)
      | none => once.closure
    (once.power min).comp further
  | capture a => a.matchesIn text

end Regex

/-- A pattern and the text that it was written as. -/
structure Regex where
  source : String
  expr : Regex.Expr

/-- The pattern matches at some place of the text. -/
def Regex.isMatch (regex : Regex) (text : String) : Bool :=
  (regex.expr.matchesIn text.toList.toArray).isInhabited

end Tagdown
