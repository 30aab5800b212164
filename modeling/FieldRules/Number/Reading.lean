/-!
Decimal numerals of rule conditions: a sign where one is allowed, then ASCII digits alone. A number
outside the range of its kind is no numeral.
-/

set_option autoImplicit false

namespace FieldRules.Number

attribute [local instance (high)] instPowNat

def digit? (c : Char) : Option Nat :=
  if '0' ≤ c ∧ c ≤ '9' then some (c.toNat - '0'.toNat) else none

def digitsFrom (n : Nat) : List Char → Option Nat
  | [] => some n
  | c :: s => match digit? c with
    | some d => digitsFrom (10 * n + d) s
    | none => none

def digits? : List Char → Option Nat
  | [] => none
  | s => digitsFrom 0 s

def lengthLimit : Nat := 2 ^ (64 : Nat)

/-- The bounds of integers are two to this power, the lower one included. -/
def integerLimit : Nat := 2 ^ (127 : Nat)

def lengthInRange (n : Nat) : Option Nat := if n < lengthLimit then some n else none

def integerInRange (n : Int) : Option Int :=
  if -(integerLimit : Int) ≤ n ∧ n < integerLimit then some n else none

/-- A length: digits, after a plus sign or none. -/
def length? : List Char → Option Nat
  | '+' :: s => (digits? s).bind lengthInRange
  | s => (digits? s).bind lengthInRange

/-- An integer: digits, after one sign or none. -/
def integer? : List Char → Option Int
  | '+' :: s => (digits? s).bind fun n => integerInRange n
  | '-' :: s => (digits? s).bind fun n => integerInRange (-n)
  | s => (digits? s).bind fun n => integerInRange n

theorem digits?_nil : digits? [] = none := rfl

theorem digits?_cons (c : Char) (s : List Char) : digits? (c :: s) = digitsFrom 0 (c :: s) := rfl

example : integer? "-170141183460469231731687303715884105728".toList = some (-2 ^ 127) := by decide

example : integer? "170141183460469231731687303715884105728".toList = none := by decide

example : length? "18446744073709551616".toList = none := by decide

end FieldRules.Number
