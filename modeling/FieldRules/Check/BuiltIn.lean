import FieldRules.Check.Numeric
import FieldRules.Check.Text

set_option autoImplicit false

namespace FieldRules

inductive BuiltIn where
  | length | matching | oneOf | intMin | intMax | intOneOf | floatMin | floatMax
  deriving DecidableEq, Repr

namespace BuiltIn

def all : List BuiltIn :=
  [length, matching, oneOf, intMin, intMax, intOneOf, floatMin, floatMax]

/-- The rule name under which the check is registered, and of which its faults speak. -/
def ruleName : BuiltIn → String
  | length => "len"
  | matching => "regexp"
  | oneOf => "in"
  | intMin => "min"
  | intMax => "max"
  | intOneOf => "in"
  | floatMin => "min"
  | floatMax => "max"

def check (engine : Engine) : BuiltIn → Check
  | length => .string Check.length
  | matching => .string (Check.matching engine)
  | oneOf => .string Check.oneOf
  | intMin => .int Check.intMin
  | intMax => .int Check.intMax
  | intOneOf => .int Check.intOneOf
  | floatMin => .float Check.floatMin
  | floatMax => .float Check.floatMax

def kind : BuiltIn → Kind
  | length | matching | oneOf => .string
  | intMin | intMax | intOneOf => .int
  | floatMin | floatMax => .float

@[simp] theorem kind_check (engine : Engine) (b : BuiltIn) : (b.check engine).kind = b.kind := by
  cases b <;> rfl

def reason : BuiltIn → Reason
  | length => .lengthDiffers
  | matching => .noMatch
  | oneOf => .textNotListed
  | intMin => .tooSmall
  | intMax => .tooGreat
  | intOneOf => .intNotListed
  | floatMin => .tooSmall
  | floatMax => .tooGreat

end BuiltIn

end FieldRules
