import FieldRules.Number.Shortest
import FieldRules.Text.Quoted
import FieldRules.Value

set_option autoImplicit false

namespace FieldRules.Value

mutual

def text : Value → String
  | nil => "Nil"
  | sealed => "Opaque"
  | string s => "Str(" ++ Text.Quoted.quote s ++ ")"
  | int n => "Int(" ++ toString n ++ ")"
  | float x => "Float(" ++ x.text ++ ")"
  | bool b => "Bool(" ++ (if b then "true" else "false") ++ ")"
  | sequence items => "Seq([" ++ textItems items ++ "])"
  | record typeName _ => "Record(" ++ Text.Quoted.quote typeName ++ ")"
termination_by structural v => v

def textItems : List Value → String
  | [] => ""
  | [v] => v.text
  | v :: w :: vs => v.text ++ ", " ++ textItems (w :: vs)
termination_by structural vs => vs

end

end FieldRules.Value
