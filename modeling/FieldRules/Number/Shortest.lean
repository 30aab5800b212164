import FieldRules.Number.Binary

/-!
The shortest decimal text of a floating-point number: of the decimals that lie nearer to it than to
any other number of its format, one with the fewest digits, and of those the nearest.
-/

set_option autoImplicit false

namespace FieldRules.Number

attribute [local instance (high)] instPowNat

def Format.decimalPlace (f : Format) (m : Nat) : Int :=
  let scale := f.unitShift / 3 + 1
  ((Nat.toDigits 10 (m * 10 ^ scale / 2 ^ f.unitShift)).length : Int) - 1 - scale

/-- The decimals that read back as one number, in quarters of a unit, with both ends if `closed`. -/
structure Basin where
  low : Nat
  value : Nat
  high : Nat
  closed : Bool
  deriving DecidableEq, Repr

/-- Between the middles to the two neighbours. Below a power of two the lower neighbour is nearer
than the upper one. -/
def Binary.basin {f : Format} (x : Binary f) : Basin :=
  let gap := 2 ^ (x.exponent.val - 1)
  let below := if x.fraction.val = 0 ∧ 1 < x.exponent.val then gap else 2 * gap
  ⟨4 * x.magnitude - below, 4 * x.magnitude, 4 * x.magnitude + 2 * gap, x.fraction.val % 2 == 0⟩

def Basin.holds (b : Basin) (quarter step d : Nat) : Bool :=
  let v := d * step
  if b.closed then b.low * quarter ≤ v && v ≤ b.high * quarter
  else b.low * quarter < v && v < b.high * quarter

/-- The nearest of the two multiples of `10 ^ place` around the value, if one is in the basin; a
value halfway between two of them takes the greater. -/
def Basin.onGrid? (b : Basin) (f : Format) (place : Int) : Option Nat :=
  let quarter := 10 ^ (-place).toNat
  let step := 10 ^ place.toNat * 2 ^ (f.unitShift + 2)
  let d := b.value * quarter / step
  let rest := b.value * quarter % step
  let up := b.holds quarter step (d + 1)
  if b.holds quarter step d then
    some (if up && step ≤ 2 * rest then d + 1 else d)
  else if up then some (d + 1)
  else none

def Binary.shortest {f : Format} (x : Binary f) : List Char × Int :=
  let first := f.decimalPlace x.magnitude
  let found := (List.range f.fractionBits).findSome? fun (n : Nat) =>
    (x.basin.onGrid? f (first - n)).map fun d => (Nat.toDigits 10 d, n)
  match found with
  | some (digits, n) =>
    let kept := (digits.reverse.dropWhile (· == '0')).reverse
    (kept, first + digits.length - 1 - n)
  | none => (['0'], 0)

def scientificText (digits : List Char) (place : Int) : String :=
  match digits with
  | [] => "0"
  | [d] => s!"{d}e{place}"
  | d :: rest => s!"{d}.{String.ofList rest}e{place}"

def positionalText (digits : List Char) (place : Int) : String :=
  if place < 0 then
    "0." ++ String.ofList (List.replicate (-place - 1).toNat '0' ++ digits)
  else
    let whole := place.toNat + 1
    let filled := digits ++ List.replicate (whole - digits.length) '0'
    let part := filled.drop whole
    String.ofList (filled.take whole) ++ "." ++
      String.ofList (if part.isEmpty then ['0'] else part)

/-- The text of a number: positional from a ten-thousandth up to sixteen digits before the point,
with an exponent elsewhere. -/
def Binary.text {f : Format} (x : Binary f) : String :=
  if x.isNaN then "NaN"
  else
    let sign := if x.negative then "-" else ""
    if !x.isFinite then sign ++ "inf"
    else if x.magnitude = 0 then sign ++ "0.0"
    else
      let (digits, place) := x.shortest
      if -4 ≤ place ∧ place ≤ 15 then sign ++ positionalText digits place
      else sign ++ scientificText digits place

end FieldRules.Number
