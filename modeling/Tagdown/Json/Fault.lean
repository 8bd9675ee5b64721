import Tagdown.Text.Quoted

/-!
# What can be wrong with a document

Either the text is no JSON at all, or it is and says something of another shape than what is
asked for. `Fault.message` is the text of the second sort; the first has none, since all that
matters about it is that there is nothing to read.
-/

namespace Tagdown.Json

/-- Why a text cannot be read as what is asked for. -/
inductive Fault where
  /-- The text is not JSON, or goes on where it should end. -/
  | malformed
  /-- A value of another kind stands where `expected` is asked for. -/
  | wrongType (found expected : String)
  | unknownField (name : String) (fields : List String)
  | duplicateField (name : String)
  | missingField (name : String)
  | unknownVariant (name : String) (variants : List String)
  /-- A list has `length` elements and stands for something with more. -/
  | wrongLength (length : Nat) (expected : String)
deriving DecidableEq

/-- A name between backquotes. -/
def backquoted (name : String) : String :=
  "`" ++ name ++ "`"

/-- The names that are possible, in a sentence. -/
def expectedNames : List String → String
  | [] => "there are no fields"
  | [a] => "expected " ++ backquoted a
  | [a, b] => "expected " ++ backquoted a ++ " or " ++ backquoted b
  | names => "expected one of " ++ ", ".intercalate (names.map backquoted)

/-- The text of a fault. -/
def Fault.message : Fault → String
  | malformed => "malformed document"
  | wrongType found expected => "invalid type: " ++ found ++ ", expected " ++ expected
  | unknownField name fields =>
    "unknown field " ++ backquoted name ++ ", " ++ expectedNames fields
  | duplicateField name => "duplicate field " ++ backquoted name
  | missingField name => "missing field " ++ backquoted name
  | unknownVariant name variants =>
    "unknown variant " ++ backquoted name ++ ", " ++ expectedNames variants
  | wrongLength length expected =>
    "invalid length " ++ toString length ++ ", expected " ++ expected

end Tagdown.Json
