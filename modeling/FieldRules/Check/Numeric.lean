import FieldRules.Check
import FieldRules.Number.Decimal
import FieldRules.Text.Pieces

/-!
The built-in checks of numbers: least and greatest values of integers and of floating-point numbers,
and lists of integers. The bounds of floating-point numbers are finite, and NaN is within none.
-/

set_option autoImplicit false

namespace FieldRules.Check

def integers? (s : List Char) : Option (List Int) :=
  (Text.pieces ',' s).mapM Number.integer?

/-- A finite number that limits others. -/
def floatBound? (s : List Char) : Option Number.Binary64 :=
  (Number.Binary.ofText? .double s).filter fun x => x.isFinite

def intMin (value : Int) (condition : String) : Verdict :=
  .judge (readCondition "min" Number.integer? condition) (fun b => decide (b ≤ value))
    .tooSmall condition

def intMax (value : Int) (condition : String) : Verdict :=
  .judge (readCondition "max" Number.integer? condition) (fun b => decide (value ≤ b))
    .tooGreat condition

def intOneOf (value : Int) (condition : String) : Verdict :=
  .judge (readCondition "in" integers? condition) (fun ns => decide (value ∈ ns))
    .intNotListed condition

def floatMin (value : Number.Binary64) (condition : String) : Verdict :=
  .judge (readCondition "min" floatBound? condition) (fun b => b.le value)
    .tooSmall condition

def floatMax (value : Number.Binary64) (condition : String) : Verdict :=
  .judge (readCondition "max" floatBound? condition) (fun b => value.le b)
    .tooGreat condition

end FieldRules.Check
