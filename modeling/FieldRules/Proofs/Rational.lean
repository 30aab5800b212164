import Mathlib.Algebra.Order.Field.Power
import Mathlib.Algebra.Order.Field.Rat
import Mathlib.Order.WithBot
import FieldRules.Number.Binary

/-!
Floating-point words as numbers. A finite word is a rational number, read off its fields as the
format defines them. Main statement: among words other than NaN the order of places on the integer
scale is the order of these numbers, with one infinity below them all and one above.
-/

set_option autoImplicit false

namespace FieldRules.Number

namespace Format

variable {f : Format}

def bias (f : Format) : Nat := 2 ^ (f.exponentBits - 1) - 1

theorem bias_add_one (f : Format) : f.bias + 1 = 2 ^ (f.exponentBits - 1) :=
  Nat.sub_add_cancel (Nat.two_pow_pos _)

theorem one_le_bias (hf : 2 ≤ f.exponentBits) : 1 ≤ f.bias := by
  have h : 2 ^ 1 ≤ 2 ^ (f.exponentBits - 1) := Nat.pow_le_pow_right (by decide) (by omega)
  rw [← bias_add_one] at h
  omega

theorem special_eq (hf : 2 ≤ f.exponentBits) : f.special = 2 * f.bias + 1 := by
  have h : 2 ^ f.exponentBits = 2 * 2 ^ (f.exponentBits - 1) := by
    rw [← Nat.pow_succ']
    congr 1
    omega
  rw [special, h, ← bias_add_one]
  omega

theorem unitShift_eq (f : Format) : f.unitShift = f.fractionBits + (f.bias - 1) := by
  rw [unitShift, ← bias_add_one]
  omega

end Format

namespace Binary

variable {f : Format} {x y : Binary f}

/-- The distance of a finite number from zero. The significand has a one before the fraction; where
the exponent field is zero it has none, and the exponent is that of the field one. -/
def size (x : Binary f) : ℚ :=
  if x.exponent.val = 0 then (x.fraction.val : ℚ) / 2 ^ f.fractionBits * (2 : ℚ) ^ (1 - f.bias : ℤ)
  else (1 + (x.fraction.val : ℚ) / 2 ^ f.fractionBits) * (2 : ℚ) ^ (x.exponent.val - f.bias : ℤ)

def rational (x : Binary f) : ℚ := if x.negative then -x.size else x.size

example : (ofBits 0xbff8000000000000 : Binary64).rational = -3 / 2 ∧
    (ofMagnitude true 0 : Binary64).rational = 0 := by
  decide +kernel

/-- The place of a word other than NaN among the rational numbers and the two infinities. -/
def place (x : Binary f) : WithBot (WithTop ℚ) :=
  if x.isFinite then ((x.rational : WithTop ℚ) : WithBot (WithTop ℚ))
  else if x.negative then ⊥ else ⊤

theorem size_mul_two_pow (hf : 2 ≤ f.exponentBits) (x : Binary f) :
    x.size * 2 ^ f.unitShift = x.magnitude := by
  have hpow : (2 : ℚ) ^ f.unitShift = 2 ^ f.fractionBits * 2 ^ (f.bias - 1 : ℤ) := by
    rw [Format.unitShift_eq, pow_add, ← zpow_natCast _ (f.bias - 1),
      Nat.cast_pred (Format.one_le_bias hf)]
  have hone : (2 : ℚ) ^ f.fractionBits ≠ 0 := pow_ne_zero _ two_ne_zero
  rw [hpow, size, magnitude]
  by_cases he : x.exponent.val = 0
  · rw [if_pos he, if_pos he, mul_mul_mul_comm, div_mul_cancel₀ _ hone, ← zpow_add₀ two_ne_zero,
      sub_add_sub_cancel, sub_self, zpow_zero, mul_one]
  · have h : (2 : ℚ) ^ (x.exponent.val - f.bias : ℤ) * 2 ^ (f.bias - 1 : ℤ) =
        2 ^ (x.exponent.val - 1) := by
      rw [← zpow_add₀ two_ne_zero, ← zpow_natCast]
      congr 1
      omega
    rw [if_neg he, if_neg he, mul_mul_mul_comm, h, add_mul, one_mul, div_mul_cancel₀ _ hone]
    norm_cast

theorem rational_mul_two_pow (hf : 2 ≤ f.exponentBits) (x : Binary f) :
    x.rational * 2 ^ f.unitShift = x.units := by
  have h := size_mul_two_pow hf x
  rw [rational, units]
  split
  · rw [neg_mul, h, Int.cast_neg, Int.cast_natCast]
  · rw [h, Int.cast_natCast]

theorem rational_le_iff (hf : 2 ≤ f.exponentBits) :
    x.rational ≤ y.rational ↔ x.units ≤ y.units := by
  have hpos : (0 : ℚ) < 2 ^ f.unitShift := pow_pos two_pos _
  rw [← mul_le_mul_iff_left₀ hpos, rational_mul_two_pow hf, rational_mul_two_pow hf, Int.cast_le]

theorem magnitude_infinity (negative : Bool) (hf : 2 ≤ f.exponentBits) :
    (infinity negative : Binary f).magnitude = 2 ^ f.fractionBits * 2 ^ (f.special - 1) := by
  have hs : f.special ≠ 0 := by simp [Format.special_eq hf]
  simp [infinity, magnitude, hs]

theorem magnitude_lt_infinity (h : x.isFinite = true) (negative : Bool)
    (hf : 2 ≤ f.exponentBits) : x.magnitude < (infinity negative : Binary f).magnitude := by
  rw [magnitude_infinity negative hf, magnitude]
  have hx : x.exponent.val ≠ f.special := by simpa [isFinite] using h
  have hlt : x.exponent.val < f.special + 1 := by
    have := x.exponent.isLt
    simp only [Format.special] at hx ⊢
    omega
  have hfrac := x.fraction.isLt
  split
  · exact hfrac.trans_le (Nat.le_mul_of_pos_right _ (Nat.two_pow_pos _))
  · rename_i he
    have hs : f.special - 1 = (f.special - 2) + 1 := by
      have hb := Format.one_le_bias hf
      have hs := Format.special_eq hf
      omega
    have hpow : 2 ^ (x.exponent.val - 1) ≤ 2 ^ (f.special - 2) :=
      Nat.pow_le_pow_right (by decide) (by omega)
    calc (2 ^ f.fractionBits + x.fraction.val) * 2 ^ (x.exponent.val - 1)
        < (2 ^ f.fractionBits + 2 ^ f.fractionBits) * 2 ^ (x.exponent.val - 1) :=
          Nat.mul_lt_mul_of_pos_right (by omega) (Nat.two_pow_pos _)
      _ ≤ (2 ^ f.fractionBits + 2 ^ f.fractionBits) * 2 ^ (f.special - 2) :=
          Nat.mul_le_mul_left _ hpow
      _ = 2 ^ f.fractionBits * 2 ^ (f.special - 1) := by
          rw [hs, Nat.pow_succ, ← Nat.two_mul, Nat.mul_comm 2, Nat.mul_assoc, Nat.mul_comm 2]

theorem units_infinity_lt (h : x.isFinite = true) (hf : 2 ≤ f.exponentBits) :
    (infinity true : Binary f).units < x.units ∧ x.units < (infinity false : Binary f).units := by
  have hneg := magnitude_lt_infinity h true hf
  have hpos := magnitude_lt_infinity h false hf
  have hn : (infinity true : Binary f).units = -((infinity true : Binary f).magnitude : Int) := rfl
  have hp : (infinity false : Binary f).units = (infinity false : Binary f).magnitude := rfl
  rw [hn, hp, units]
  split <;> omega

theorem units_infinity_true_lt (hf : 2 ≤ f.exponentBits) :
    (infinity true : Binary f).units < (infinity false : Binary f).units := by
  -- zero lies between the two
  have hzero : (ofMagnitude false 0 : Binary f).isFinite = true := by
    simp [ofMagnitude, isFinite, Format.special_eq hf]
  have h := units_infinity_lt hzero hf
  exact h.1.trans h.2

theorem finite_or_infinity (h : x.isNaN = false) :
    x.isFinite = true ∨ x = infinity true ∨ x = infinity false := by
  by_cases hx : x.isFinite = true
  · exact Or.inl hx
  · obtain ⟨s, e, m⟩ := x
    have he : e.val = f.special := by simpa [isFinite] using hx
    have hm : m.val = 0 := by simpa [isNaN, he] using h
    have hxs : (⟨s, e, m⟩ : Binary f) = infinity s := by
      rw [infinity, Binary.mk.injEq]
      exact ⟨rfl, Fin.ext he, Fin.ext hm⟩
    rw [hxs]
    cases s with
    | true => exact Or.inr (Or.inl rfl)
    | false => exact Or.inr (Or.inr rfl)

theorem isFinite_infinity (negative : Bool) : (infinity negative : Binary f).isFinite = false := by
  simp [isFinite, infinity]

theorem isFinite_eq_false_iff :
    x.isFinite = false ↔ x.isNaN = true ∨ x = infinity true ∨ x = infinity false := by
  constructor
  · intro h
    by_cases hn : x.isNaN = true
    · exact Or.inl hn
    · have hi := finite_or_infinity (Bool.eq_false_of_not_eq_true hn)
      rw [h, or_iff_right Bool.false_ne_true] at hi
      exact Or.inr hi
  · rintro (hn | rfl | rfl)
    · by_contra hf
      have h := not_isNaN_of_isFinite (Bool.eq_true_of_not_eq_false hf)
      rw [hn] at h
      contradiction
    · exact isFinite_infinity true
    · exact isFinite_infinity false

theorem place_infinity_true : (infinity true : Binary f).place = ⊥ := by
  rw [place, isFinite_infinity]
  rfl

theorem place_infinity_false : (infinity false : Binary f).place = ⊤ := by
  rw [place, isFinite_infinity]
  rfl

theorem place_of_isFinite (h : x.isFinite = true) :
    x.place = ((x.rational : WithTop ℚ) : WithBot (WithTop ℚ)) := if_pos h

theorem place_eq_iff (hx : x.isNaN = false) (hy : y.isFinite = true) :
    x.place = y.place ↔ x.isFinite = true ∧ x.rational = y.rational := by
  rw [place_of_isFinite hy]
  rcases finite_or_infinity hx with hf | rfl | rfl
  · rw [place_of_isFinite hf, WithBot.coe_inj, WithTop.coe_inj, and_iff_right hf]
  · simp [place_infinity_true, isFinite_infinity]
  · simp [place_infinity_false, isFinite_infinity]

theorem place_le_iff (hx : x.isNaN = false) (hy : y.isNaN = false) (hf : 2 ≤ f.exponentBits) :
    x.place ≤ y.place ↔ x.units ≤ y.units := by
  have hinf : (infinity true : Binary f).units < (infinity false : Binary f).units :=
    units_infinity_true_lt hf
  rcases finite_or_infinity hx with hx | rfl | rfl
  · have hux := units_infinity_lt hx hf
    rcases finite_or_infinity hy with hy | rfl | rfl
    · rw [place_of_isFinite hx, place_of_isFinite hy, WithBot.coe_le_coe, WithTop.coe_le_coe,
        rational_le_iff hf]
    · rw [place_of_isFinite hx, place_infinity_true]
      simp [hux.1]
    · rw [place_infinity_false]
      simp [hux.2.le]
  · rw [place_infinity_true]
    rcases finite_or_infinity hy with hy | rfl | rfl
    · simp [(units_infinity_lt hy hf).1.le]
    · simp
    · simp [hinf.le]
  · rw [place_infinity_false]
    rcases finite_or_infinity hy with hy | rfl | rfl
    · rw [place_of_isFinite hy]
      simp [(units_infinity_lt hy hf).2]
    · rw [place_infinity_true]
      simp [hinf]
    · simp [place_infinity_false]

theorem le_iff_place (hf : 2 ≤ f.exponentBits) :
    x.le y = true ↔ x.isNaN = false ∧ y.isNaN = false ∧ x.place ≤ y.place := by
  rw [le_iff]
  exact and_congr_right fun hx => and_congr_right fun hy => (place_le_iff hx hy hf).symm

end Binary

end FieldRules.Number
