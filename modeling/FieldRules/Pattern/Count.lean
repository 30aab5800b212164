import FieldRules.Number.Reading
import FieldRules.Pattern.Space
import FieldRules.Text.Pieces

set_option autoImplicit false

namespace FieldRules.Pattern

attribute [local instance (high)] instPowNat

structure Count where
  least : Nat
  most : Option Nat

namespace Count

def limit : Nat := 2 ^ (32 : Nat)

def number? (s : List Char) : Option Nat :=
  (Number.digits? (Text.trim s)).bind fun n => if n < limit then some n else none

def ofPieces? : List (List Char) → Option Count
  | [n] => (number? n).map fun n => ⟨n, some n⟩
  | [n, []] => (number? n).map fun n => ⟨n, none⟩
  | [n, m] => (number? n).bind fun n => (number? m).bind fun m =>
    if n ≤ m then some ⟨n, some m⟩ else none
  | _ => none

def read (spaced : Bool) (s : List Char) : Option (Count × List Char) :=
  (upTo? '\x7D' spaced false s).bind fun (inner, rest) =>
    (ofPieces? (Text.pieces ',' inner)).map fun count => (count, rest)

example : number? " 12 ".toList = some 12 := by decide

example : number? "4294967296".toList = none := by decide

end Count

end FieldRules.Pattern
