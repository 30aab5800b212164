import FieldRules.Datum
import FieldRules.Walk

/-!
Validation of a whole value, which has to be a record. An absent value is accepted, and any other
value is a fault of the caller. The walk of the record decides the rest: a fault ends the
validation, and rejections make a report.
-/

set_option autoImplicit false

namespace FieldRules

/-- What a validation made known and what it came to. -/
structure Validation where
  log : List Event
  outcome : Outcome
  deriving Repr

namespace Validation

/-- Closes the walk of a record of the named type. -/
def ofWalk (typeName : String) (w : Walk) : Validation :=
  match w.result with
  | .error f => ⟨w.log ++ [.aborted typeName f], .error (.fault f)⟩
  | .ok [] => ⟨w.log, .ok ()⟩
  | .ok (r :: rs) =>
    ⟨w.log ++ [.rejected typeName (rs.length + 1)], .error (.rejected (.ofList (r :: rs)))⟩

end Validation

def Registry.validate (g : Registry) (value : Value) : Validation :=
  match value with
  | .nil => ⟨[], .ok ()⟩
  | .record typeName fields => .ofWalk typeName (g.walkFields typeName fields)
  | other => ⟨[], .error (.fault (.notRecord other.kind))⟩

def validate (engine : Engine) (d : Datum) : Validation :=
  (Registry.standard engine).validate d.view

end FieldRules
