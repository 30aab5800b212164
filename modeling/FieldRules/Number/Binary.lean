/-!
Binary floating-point numbers as their words: a sign, an exponent field and a fraction field. Every
word but those of NaN has a place on one integer scale, whose unit is the least positive number of
the format. The infinities take the places of the next exponent, beyond all finite numbers, so the
order of numbers is the order of places.
-/

set_option autoImplicit false

namespace FieldRules.Number

attribute [local instance (high)] instPowNat

structure Format where
  exponentBits : Nat
  fractionBits : Nat
  deriving DecidableEq, Repr

namespace Format

def single : Format := ⟨8, 23⟩

def double : Format := ⟨11, 52⟩

/-- The exponent field of infinities and NaN. -/
def special (f : Format) : Nat := 2 ^ f.exponentBits - 1

/-- The unit of a format is two to the minus this power. -/
def unitShift (f : Format) : Nat := 2 ^ (f.exponentBits - 1) - 2 + f.fractionBits

theorem special_lt (f : Format) : f.special < 2 ^ f.exponentBits :=
  Nat.sub_lt (Nat.two_pow_pos _) (by decide)

example : single.unitShift = 149 ∧ double.unitShift = 1074 := by decide

end Format

structure Binary (f : Format) where
  negative : Bool
  exponent : Fin (2 ^ f.exponentBits)
  fraction : Fin (2 ^ f.fractionBits)
  deriving DecidableEq, Repr

abbrev Binary32 := Binary .single

abbrev Binary64 := Binary .double

namespace Binary

variable {f : Format}

def ofBits (n : Nat) : Binary f where
  negative := n / 2 ^ (f.exponentBits + f.fractionBits) % 2 == 1
  exponent := ⟨n / 2 ^ f.fractionBits % 2 ^ f.exponentBits, Nat.mod_lt _ (Nat.two_pow_pos _)⟩
  fraction := ⟨n % 2 ^ f.fractionBits, Nat.mod_lt _ (Nat.two_pow_pos _)⟩

def toBits (x : Binary f) : Nat :=
  ((if x.negative then 2 ^ f.exponentBits else 0) + x.exponent.val) * 2 ^ f.fractionBits
    + x.fraction.val

def isNaN (x : Binary f) : Bool := x.exponent.val == f.special && x.fraction.val != 0

def isFinite (x : Binary f) : Bool := x.exponent.val != f.special

def magnitude (x : Binary f) : Nat :=
  if x.exponent.val = 0 then x.fraction.val
  else (2 ^ f.fractionBits + x.fraction.val) * 2 ^ (x.exponent.val - 1)

/-- The place on the integer scale: the number itself, in units, if it is finite. -/
def units (x : Binary f) : Int := if x.negative then -(x.magnitude : Int) else x.magnitude

def le (x y : Binary f) : Bool := !x.isNaN && !y.isNaN && decide (x.units ≤ y.units)

theorem le_iff (x y : Binary f) :
    x.le y = true ↔ x.isNaN = false ∧ y.isNaN = false ∧ x.units ≤ y.units := by
  simp [le, and_assoc]

theorem not_isNaN_of_isFinite {x : Binary f} (h : x.isFinite = true) : x.isNaN = false := by
  simp_all [isFinite, isNaN]

def infinity (negative : Bool) : Binary f := ⟨negative, ⟨f.special, f.special_lt⟩, 0⟩

def nan : Binary f :=
  ⟨false, ⟨f.special, f.special_lt⟩,
    ⟨2 ^ (f.fractionBits - 1) % 2 ^ f.fractionBits, Nat.mod_lt _ (Nat.two_pow_pos _)⟩⟩

/-- The number at distance `m` units from zero, for an `m` that has a word, and an infinity beyond
the greatest of them. -/
def ofMagnitude (negative : Bool) (m : Nat) : Binary f :=
  if m < 2 ^ f.fractionBits then
    ⟨negative, ⟨0, Nat.two_pow_pos _⟩, ⟨m % 2 ^ f.fractionBits, Nat.mod_lt _ (Nat.two_pow_pos _)⟩⟩
  else
    let shift := m.log2 - f.fractionBits
    if h : shift + 1 < f.special then
      ⟨negative, ⟨shift + 1, Nat.lt_trans h f.special_lt⟩,
        ⟨m / 2 ^ shift % 2 ^ f.fractionBits, Nat.mod_lt _ (Nat.two_pow_pos _)⟩⟩
    else infinity negative

/-- The same number in the double format, which has a word for every single number. -/
def widen (x : Binary32) : Binary64 :=
  if x.isNaN then nan
  else if x.isFinite then
    ofMagnitude x.negative (x.magnitude * 2 ^ (Format.double.unitShift - Format.single.unitShift))
  else infinity x.negative

end Binary

end FieldRules.Number
