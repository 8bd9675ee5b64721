import Tagdown.Json.Fault
import Tagdown.Json.Token

/-!
# Reading values of a given shape

A `Decoder` takes a value from the front of the tokens. What is wrong is found in the order of
the text: a decoder looks no further than it has read, so the first fault is reported, be it
one of the text or one of the shape.

`record` reads a record, given by its fields, from an object or from an array with the values
in the order of the fields. An object may leave fields out, and an array may end early where
the fields left have a default.
-/

namespace Tagdown.Json

/-- Take a value from the front of the tokens. -/
def Decoder (α : Type) : Type :=
  List Token → Except Fault (α × List Token)

/-- There is no value of the right kind at the front of the tokens. -/
def wrongType {α : Type} (expected : String) (ts : List Token) : Except Fault α :=
  match ts.head?.bind Token.describe? with
  | some found => .error (.wrongType found expected)
  | none => .error .malformed

/-! ## Values without parts -/

def string : Decoder String
  | .string s :: ts => .ok (s, ts)
  | ts => wrongType "a string" ts

def bool : Decoder Bool
  | .bool b :: ts => .ok (b, ts)
  | ts => wrongType "a boolean" ts

def null : Decoder Unit
  | .null :: ts => .ok ((), ts)
  | ts => wrongType "unit" ts

/-- A value, or `null` for none. -/
def optional {α : Type} (value : Decoder α) : Decoder (Option α)
  | .null :: ts => .ok (none, ts)
  | ts => (value ts).map fun (a, ts) => (some a, ts)

/-! ## Arrays -/

/-- Where the next element of an array begins, or nothing when the array ends here. The
elements are set off by commas, and none comes before the first or after the last. -/
def nextElement (isFirst : Bool) (ts : List Token) : Except Fault (Option (List Token)) :=
  match isFirst, ts with
  | _, .closeBracket :: _ => .ok none
  | true, _ :: _ => .ok (some ts)
  | false, .comma :: .closeBracket :: _ => .error .malformed
  | false, .comma :: ts => .ok (some ts)
  | _, _ => .error .malformed

/-- The rest of an array, after its opening bracket or one of its elements. -/
def elements {α : Type} (value : Decoder α) : Nat → Bool → Decoder (List α)
  | 0, _, _ => .error .malformed
  | fuel + 1, isFirst, ts => do
    match ← nextElement isFirst ts with
    | none => .ok ([], ts.drop 1)
    | some ts =>
      let (a, ts) ← value ts
      let (rest, ts) ← elements value fuel false ts
      .ok (a :: rest, ts)

/-- An array of values. -/
def array {α : Type} (value : Decoder α) : Decoder (List α)
  | .openBracket :: ts => elements value (ts.length + 1) true ts
  | ts => wrongType "a sequence" ts

/-! ## Alternatives by name -/

/-- The alternative with this name. -/
def variantNamed {α : Type} (variants : List (String × α)) (name : String) : Except Fault α :=
  match variants.find? (·.1 == name) with
  | some (_, a) => .ok a
  | none => .error (.unknownVariant name (variants.map Prod.fst))

/-- One of some named values: its name, or an object with its name and `null`. -/
def variant {α : Type} (variants : List (String × α)) : Decoder α
  | .string name :: ts => (variantNamed variants name).map (·, ts)
  | .openBrace :: .string name :: ts => do
    let a ← variantNamed variants name
    match ts with
    | .colon :: ts =>
      match ← null ts with
      | (_, .closeBrace :: ts) => .ok (a, ts)
      | _ => .error .malformed
    | _ => .error .malformed
  | _ => .error .malformed

/-! ## Records -/

/-- A field of a record that is collected in a draft of type `σ`. -/
structure RecordField (σ : Type) where
  name : String
  /-- the draft has a value for the field -/
  isSet : σ → Bool
  /-- read a value and put it into the draft -/
  read : σ → Decoder σ
  /-- an array may end before this field -/
  hasDefault : Bool := false

/-- The rest of an object, after its opening brace or one of its members. A name is judged
before what follows it is looked at. -/
def members {σ : Type} (fields : List (RecordField σ)) : Nat → Bool → σ → Decoder σ
  | 0, _, _, _ => .error .malformed
  | fuel + 1, isFirst, draft, ts =>
    let member (ts : List Token) : Except Fault (σ × List Token) :=
      match ts with
      | .string name :: ts =>
        match fields.find? (·.name == name) with
        | none => .error (.unknownField name (fields.map RecordField.name))
        | some field =>
          if field.isSet draft then .error (.duplicateField name)
          else
            match ts with
            | .colon :: ts =>
              (field.read draft ts).bind fun (draft, ts) => members fields fuel false draft ts
            | _ => .error .malformed
      | _ => .error .malformed
    match isFirst, ts with
    | _, .closeBrace :: ts => .ok (draft, ts)
    | true, ts => member ts
    | false, .comma :: ts => member ts
    | false, _ => .error .malformed

/-- The elements of an array as the values of fields, in order. `index` of the `total` fields
have been read. -/
def positions {σ : Type} (expected : String) :
    List (RecordField σ) → Nat → Bool → σ → Decoder σ
  | [], _, _, draft, ts =>
    match ts with
    | .closeBracket :: ts => .ok (draft, ts)
    | _ => .error .malformed
  | field :: fields, index, isFirst, draft, ts =>
    match nextElement isFirst ts with
    | .error fault => .error fault
    | .ok none =>
      if field.hasDefault then positions expected fields (index + 1) isFirst draft ts
      else .error (.wrongLength index expected)
    | .ok (some ts) =>
      (field.read draft ts).bind fun (draft, ts) =>
        positions expected fields (index + 1) false draft ts

/-- A record with the given name and fields, collected from an empty draft. An object may lack
fields, and `finish` says what that makes of it; an array that is accepted lacks none but those
with a default. -/
def record {σ α : Type} (name : String) (fields : List (RecordField σ)) (draft : σ)
    (finish : σ → Except Fault α) : Decoder α
  | .openBrace :: ts => do
    let (draft, ts) ← members fields (ts.length + 1) true draft ts
    .ok (← finish draft, ts)
  | .openBracket :: ts => do
    let (draft, ts) ← positions
      ("struct " ++ name ++ " with " ++ toString fields.length ++ " elements")
      fields 0 true draft ts
    .ok (← finish draft, ts)
  | ts => wrongType ("struct " ++ name) ts

/-- The value of a field that an object must have. -/
def require {α : Type} (name : String) (value : Option α) : Except Fault α :=
  match value with
  | some a => .ok a
  | none => .error (.missingField name)

/-! ## Documents -/

/-- Read a text as one value, with nothing after it. -/
def decode {α : Type} (value : Decoder α) (s : String) : Except Fault α :=
  match value (tokens s) with
  | .ok (a, []) => .ok a
  | .ok (_, _ :: _) => .error .malformed
  | .error fault => .error fault

end Tagdown.Json
