import FieldRules.Kind

/-!
Faults: what can be wrong with the rules themselves, or with asking for them. A fault is never a
property of the data.
-/

set_option autoImplicit false

namespace FieldRules

inductive Fault where
  | notRecord (kind : Kind)
  | emptyRule (tag : String)
  | malformedRule (rule : String)
  | kindHasNoRules (kind : Kind)
  | unknownRule (kind : Kind) (rule : String)
  | invalidCondition (rule condition : String)
  | badPattern (pattern diagnostic : String)
  | kindMismatch (rule : String) (expected actual : Kind)
  deriving DecidableEq, Repr

namespace Fault

def message : Fault → String
  | notRecord kind => "validation requires a struct, got " ++ kind.name
  | emptyRule tag => "the rule cannot be empty in tag '" ++ tag ++ "'"
  | malformedRule rule => "malformed rule '" ++ rule ++ "', expected 'name:condition'"
  | kindHasNoRules kind => "no validation rules for " ++ kind.name ++ " fields"
  | unknownRule kind rule => "unknown rule '" ++ rule ++ "' for " ++ kind.name ++ " fields"
  | invalidCondition rule condition =>
    "'" ++ condition ++ "' is not a valid condition for rule '" ++ rule ++ "'"
  | badPattern pattern diagnostic =>
    "'" ++ pattern ++ "' regex compilation error: " ++ diagnostic
  | kindMismatch rule expected actual =>
    "rule '" ++ rule ++ "' expects " ++ expected.name ++ " values, got " ++ actual.name

instance : ToString Fault := ⟨message⟩

end Fault

end FieldRules
