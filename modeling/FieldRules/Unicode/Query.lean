import FieldRules.Unicode.Age
import FieldRules.Unicode.Segment

/-!
Sets of characters by name: a general category, a script or a yes-or-no property by its name alone,
and the values of the other properties by a pair of names. Names are compared without regard to
case, blanks, underscores, hyphens and a leading `is`.
-/

set_option autoImplicit false

namespace FieldRules.Unicode

/-- What counts of a name. The property of the name `isc` keeps its first two letters. -/
def looseName (s : List Char) : String :=
  let counts (c : Char) := decide (c.toNat < 128) && !(c == ' ' || c == '_' || c == '-')
  let small (t : List Char) := (t.filter counts).map Char.toLower
  match s with
  | i :: s' :: rest =>
    if i.toLower = 'i' ∧ s'.toLower = 's' then
      if small rest = ['c'] then "isc" else String.ofList (small rest)
    else String.ofList (small s)
  | _ => String.ofList (small s)

example : looseName "Is_Lower-case".toList = "lowercase" := by decide

def named? (s : List Char) : Option Charset :=
  let name := looseName s
  find? properties name <|> find? categories name <|> find? scripts name

def valued? (property value : List Char) : Option Charset :=
  let name := looseName value
  match looseName property with
  | "gc" | "generalcategory" => find? categories name
  | "sc" | "script" => find? scripts name
  | "scx" | "scriptextensions" => (findRow? scripts name).map Row.extended
  | "age" => age? name
  | "gcb" | "graphemeclusterbreak" => find? graphemeClasses name
  | "wb" | "wordbreak" => find? wordClasses name
  | "sb" | "sentencebreak" => find? sentenceClasses name
  | _ => none

def wordCharacter : Charset :=
  .unions [alphabetic, mark, decimalNumber, connectorPunctuation, joinControl]

end FieldRules.Unicode
