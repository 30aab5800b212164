import FieldRules.Outcome
import FieldRules.Value

set_option autoImplicit false

namespace FieldRules

/-- A check, by the kind of the values that it judges. Its second argument is the condition. -/
inductive Check where
  | string (judge : String → String → Verdict)
  | int (judge : Int → String → Verdict)
  | float (judge : Number.Binary64 → String → Verdict)
  | bool (judge : Bool → String → Verdict)

namespace Check

def kind : Check → Kind
  | string _ => .string
  | int _ => .int
  | float _ => .float
  | bool _ => .bool

/-- Judges a value under the name of a rule. A value of another kind is a fault of the rule. -/
def run (c : Check) (rule : String) (value : Value) (condition : String) : Verdict :=
  match c, value with
  | string judge, .string s => judge s condition
  | int judge, .int n => judge n condition
  | float judge, .float x => judge x condition
  | bool judge, .bool b => judge b condition
  | _, _ => .fault (.kindMismatch rule c.kind value.kind)

theorem isScalar_kind (c : Check) : c.kind.isScalar = true := by cases c <;> rfl

def readCondition {β : Type} (rule : String) (read : List Char → Option β) (condition : String) :
    Except Fault β :=
  match read condition.toList with
  | some b => .ok b
  | none => .error (.invalidCondition rule condition)

end Check

namespace Verdict

/-- The verdict of a check that has read its condition: a condition that cannot be read is a fault,
and otherwise the value passes if what was read accepts it. -/
def judge {β : Type} (bound : Except Fault β) (accepts : β → Bool) (reason : Reason)
    (condition : String) : Verdict :=
  match bound with
  | .error f => fault f
  | .ok b => if accepts b then pass else reject (.unstamped reason condition)

theorem judge_error {β : Type} (f : Fault) (accepts : β → Bool) (reason : Reason)
    (condition : String) : judge (.error f) accepts reason condition = fault f := rfl

theorem judge_ok_eq_pass_iff {β : Type} (b : β) (accepts : β → Bool) (reason : Reason)
    (condition : String) : judge (.ok b) accepts reason condition = pass ↔ accepts b = true := by
  simp only [judge]
  split <;> simp_all

end Verdict

end FieldRules
