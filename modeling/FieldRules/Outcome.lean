import FieldRules.Fault
import FieldRules.Report

set_option autoImplicit false

namespace FieldRules

/-- What one check says of one value. -/
inductive Verdict where
  | pass
  | reject (r : Rejection)
  | fault (f : Fault)
  deriving DecidableEq, Repr

namespace Verdict

instance : Coe Rejection Verdict := ⟨reject⟩

instance : Coe Fault Verdict := ⟨fault⟩

end Verdict

inductive Failure where
  | fault (f : Fault)
  | rejected (report : Report)
  deriving DecidableEq, Repr

namespace Failure

instance : Coe Fault Failure := ⟨fault⟩

instance : Coe Report Failure := ⟨rejected⟩

def isFault : Failure → Bool
  | fault _ => true
  | rejected _ => false

def isRejected : Failure → Bool
  | fault _ => false
  | rejected _ => true

def report? : Failure → Option Report
  | fault _ => none
  | rejected p => some p

def fault? : Failure → Option Fault
  | fault f => some f
  | rejected _ => none

def message : Failure → String
  | fault f => f.message
  | rejected p => p.text

instance : ToString Failure := ⟨message⟩

end Failure

abbrev Outcome := Except Failure Unit

end FieldRules
