import Tagdown.Regex.CharClass
import Tagdown.Regex.ScriptTables

/-!
# Classes by property

What `\p` and `\P` ask for: the characters with a property. `property?` reads what stands
between their braces, which names a general category, a script or a property that a character
has or has not, or sets a category or a script equal to a value. The names can be written in
several ways (`propertyName`).

Ages, the extensions of scripts and the properties about where a text can be broken cannot be
asked for.
-/

namespace Tagdown.Regex

open Text (CharacterSet asciiLowerChar)

/-- A property as it is looked up, whatever the case of its letters. Blanks, hyphens and
underscores do not count, and neither does `is` at the beginning, except that `isc` is the name
of a property and not the category `c`. -/
def propertyName (written : List Char) : String :=
  let name := (written.filter fun c => c.toNat < 0x80 && c ∉ [' ', '_', '-']).map asciiLowerChar
  match written.map asciiLowerChar, name with
  | 'i' :: 's' :: _, 'i' :: 's' :: 'c' :: [] => "isc"
  | 'i' :: 's' :: _, 'i' :: 's' :: name => String.ofList name
  | _, name => String.ofList name

/-- The characters with the property of an entry, when it is known which have the others. -/
def PropertyEntry.characters (entry : PropertyEntry) (others : String → Option CharacterSet) :
    CharacterSet :=
  let gathered (names source : List String) : CharacterSet :=
    .union (.ofSource source :: names.filterMap others)
  (gathered entry.parts entry.plus).diff (gathered entry.without entry.minus)

/-- Look a property up in a table whose last entry is at the head. An entry is made of those
after it in the list. -/
def findProperty? : List PropertyEntry → String → Option CharacterSet
  | [], _ => none
  | entry :: earlier, name =>
    if name ∈ entry.names then some (entry.characters (findProperty? earlier))
    else findProperty? earlier name

/-- The parts before and after the first `!=`, if there is one. -/
def splitAtUnequal? : List Char → Option (List Char × List Char)
  | [] => none
  | '!' :: '=' :: rest => some ([], rest)
  | c :: rest => (splitAtUnequal? rest).map fun (name, value) => (c :: name, value)

/-- The name of a property, and the value after it if one is given. Of the three marks that can
stand between them the `!=` goes first; the class is the same with each. -/
def splitQuery (query : List Char) : List Char × Option (List Char) :=
  match splitAtUnequal? query with
  | some (name, value) => (name, some value)
  | none =>
    match Text.splitAtFirst ':' query with
    | (name, some value) => (name, some value)
    | _ => Text.splitAtFirst '=' query

/-- The characters with the property that is asked for, if there is such a property. -/
def property? (query : List Char) : Option CharacterSet :=
  match splitQuery query with
  | (name, none) =>
    findProperty? (scripts ++ categories ++ binaryProperties).reverse (propertyName name)
  | (name, some value) =>
    match propertyName name with
    | "gc" | "generalcategory" => findProperty? categories.reverse (propertyName value)
    | "sc" | "script" => findProperty? scripts (propertyName value)
    | _ => none

end Tagdown.Regex
