import FieldRules.Number.Binary
import FieldRules.Number.Reading

/-!
Decimal numerals with a point and an exponent, and the floating-point number nearest to one. The
numeral is read exactly; rounding happens once, to nearest, with ties to the even neighbour.
-/

set_option autoImplicit false

namespace FieldRules.Number

attribute [local instance (high)] instPowNat

/-- The number `(-1)^negative * digits * 10^exponent`. -/
structure Decimal where
  negative : Bool
  digits : Nat
  exponent : Int
  deriving DecidableEq, Repr

/-- The integer nearest to `num / den`, the even one if two are equally near. -/
def roundHalfEven (num den : Nat) : Nat :=
  let q := num / den
  let r := num % den
  if 2 * r < den then q
  else if den < 2 * r then q + 1
  else q + q % 2

def Format.excess (f : Format) (q : Nat) : Nat := q.log2 - f.fractionBits

def Format.nearest (f : Format) (num den : Nat) : Nat :=
  let shift := f.excess (num / den)
  roundHalfEven num (den * 2 ^ shift) * 2 ^ shift

namespace Decimal

/-- The nearest floating-point number. Numerals beyond the range become infinite, and those too
small to tell from zero become zero, without their powers of ten being built. -/
def toBinary (f : Format) (d : Decimal) : Binary f :=
  if d.digits = 0 then .ofMagnitude d.negative 0
  else if (2 ^ (f.exponentBits - 1) : Nat) < d.exponent then .infinity d.negative
  else if d.exponent + d.digits.log2 + 1 < -((f.unitShift : Int) + 1) then
    .ofMagnitude d.negative 0
  else
    let num := d.digits * 10 ^ d.exponent.toNat * 2 ^ f.unitShift
    .ofMagnitude d.negative (f.nearest num (10 ^ (-d.exponent).toNat))

def exponent? : List Char → Option Int
  | [] => some 0
  | c :: s =>
    if c = 'e' ∨ c = 'E' then
      match s with
      | '+' :: t => (digits? t).map fun n => (n : Int)
      | '-' :: t => (digits? t).map fun n => -(n : Int)
      | t => (digits? t).map fun n => (n : Int)
    else none

def fraction : List Char → List Char × List Char
  | '.' :: s => s.span fun c => (digit? c).isSome
  | s => ([], s)

def unsigned? (negative : Bool) (s : List Char) : Option Decimal :=
  let (whole, rest) := s.span fun c => (digit? c).isSome
  let (part, rest) := fraction rest
  match digits? (whole ++ part), exponent? rest with
  | some n, some e => some ⟨negative, n, e - part.length⟩
  | _, _ => none

end Decimal

def specialWord? (f : Format) (negative : Bool) (s : List Char) : Option (Binary f) :=
  let word := s.map Char.toLower
  if word = "inf".toList ∨ word = "infinity".toList then some (.infinity negative)
  else if word = "nan".toList then some { (.nan : Binary f) with negative := negative }
  else none

def Binary.unsigned? (f : Format) (negative : Bool) (s : List Char) : Option (Binary f) :=
  match specialWord? f negative s with
  | some x => some x
  | none => (Decimal.unsigned? negative s).map (·.toBinary f)

/-- The number of a text: a sign or none, then a decimal numeral or one of the special words, in
letters of either case. -/
def Binary.ofText? (f : Format) : List Char → Option (Binary f)
  | '+' :: s => Binary.unsigned? f false s
  | '-' :: s => Binary.unsigned? f true s
  | s => Binary.unsigned? f false s

end FieldRules.Number
