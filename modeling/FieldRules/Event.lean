import FieldRules.Fault

set_option autoImplicit false

namespace FieldRules

inductive Event where
  | checking (record field : String) (kind : Kind) (rules : Nat)
  | rejected (record : String) (errors : Nat)
  | aborted (record : String) (fault : Fault)
  deriving DecidableEq, Repr

namespace Event

/-- How much detail a listener has asked for if it is told of an event. -/
inductive Level where
  | trace | debug
  deriving DecidableEq, Repr

def Level.name : Level → String
  | trace => "trace"
  | debug => "debug"

inductive Attribute where
  | text (s : String)
  | count (n : Nat)
  deriving DecidableEq, Repr

def level : Event → Level
  | checking .. => .trace
  | rejected .. => .debug
  | aborted .. => .debug

def message : Event → String
  | checking .. => "validating field"
  | rejected .. => "record rejected"
  | aborted .. => "validation aborted"

def attributes : Event → List (String × Attribute)
  | checking record field kind rules =>
    [("record", .text record), ("field", .text field), ("kind", .text kind.name),
      ("rules", .count rules)]
  | rejected record errors => [("record", .text record), ("errors", .count errors)]
  | aborted record fault => [("record", .text record), ("error", .text fault.message)]

end Event

end FieldRules
