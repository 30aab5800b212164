import FieldRules.Check
import FieldRules.Engine
import FieldRules.Number.Reading
import FieldRules.Text.Pieces

/-!
The built-in checks of strings: an exact length, a pattern that matches somewhere, and a list of
strings. Lengths count characters, not bytes.
-/

set_option autoImplicit false

namespace FieldRules.Check

/-- The members of a list of strings. There is no empty list, since an empty text would be the list
of one empty string. -/
def strings? (s : List Char) : Option (List (List Char)) :=
  if s = [] then none else some (Text.pieces ',' s)

def pattern (engine : Engine) (condition : String) : Except Fault engine.Compiled :=
  if condition = "" then .error (.invalidCondition "regexp" condition)
  else match engine.compile condition with
    | .ok p => .ok p
    | .error diagnostic => .error (.badPattern condition diagnostic)

def length (value condition : String) : Verdict :=
  .judge (readCondition "len" Number.length? condition) (fun n => decide (value.length = n))
    .lengthDiffers condition

def matching (engine : Engine) (value condition : String) : Verdict :=
  .judge (pattern engine condition) (fun p => engine.search p value) .noMatch condition

def oneOf (value condition : String) : Verdict :=
  .judge (readCondition "in" strings? condition) (fun ms => ms.contains value.toList)
    .textNotListed condition

end FieldRules.Check
