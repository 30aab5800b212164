import FieldRules.Proofs.Overflow

/-!
Single numbers in the double format. Main statement: the double word of a single number is the one
word that has its sign and its place among the numbers and the infinities; NaN becomes NaN.
-/

set_option autoImplicit false

namespace FieldRules.Number

/-- A distance from zero whose digits fit into the significand of a format. -/
def Format.Fits (f : Format) (m : Nat) : Prop :=
  ∃ s e, s < 2 ^ (f.fractionBits + 1) ∧ m = s * 2 ^ e

namespace Format

variable {f f' : Format} {m : Nat}

theorem Fits.mul_two_pow (h : f.Fits m) (hf : f.fractionBits ≤ f'.fractionBits) (k : Nat) :
    f'.Fits (m * 2 ^ k) := by
  obtain ⟨s, e, hs, rfl⟩ := h
  refine ⟨s, e + k, hs.trans_le (Nat.pow_le_pow_right (by decide) (by omega)), ?_⟩
  rw [Nat.pow_add, Nat.mul_assoc]

theorem Fits.two_pow_excess_dvd (h : f.Fits m) : 2 ^ f.excess m ∣ m := by
  obtain ⟨s, e, hs, rfl⟩ := h
  by_cases h0 : s * 2 ^ e = 0
  · rw [h0]
    exact Nat.dvd_zero _
  · have hlog : (s * 2 ^ e).log2 < f.fractionBits + 1 + e := by
      rw [Nat.log2_lt h0, Nat.pow_add]
      exact Nat.mul_lt_mul_of_pos_right hs (Nat.two_pow_pos e)
    have he : f.excess (s * 2 ^ e) ≤ e := by
      simp only [excess]
      omega
    exact (Nat.pow_dvd_pow 2 he).trans (Nat.dvd_mul_left _ _)

end Format

namespace Binary

section Magnitude

variable {f : Format} {x y : Binary f}

theorem fits_magnitude (x : Binary f) : f.Fits x.magnitude := by
  have hx := x.fraction.isLt
  rw [magnitude]
  split
  · exact ⟨x.fraction.val, 0, by omega, (Nat.mul_one _).symm⟩
  · exact ⟨_, _, by omega, rfl⟩

theorem ofMagnitude_of_excess {m : Nat} (hm : 2 ^ f.fractionBits ≤ m)
    (hs : f.excess m + 1 < f.special) (negative : Bool) :
    (ofMagnitude negative m : Binary f) =
      ⟨negative, ⟨f.excess m + 1, Nat.lt_trans hs f.special_lt⟩,
        ⟨m / 2 ^ f.excess m % 2 ^ f.fractionBits, Nat.mod_lt _ (Nat.two_pow_pos _)⟩⟩ := by
  rw [ofMagnitude, if_neg (Nat.not_lt.mpr hm)]
  exact dif_pos hs

theorem ofMagnitude_of_not_excess {m : Nat} (hm : 2 ^ f.fractionBits ≤ m)
    (hs : ¬ f.excess m + 1 < f.special) (negative : Bool) :
    (ofMagnitude negative m : Binary f) = infinity negative := by
  rw [ofMagnitude, if_neg (Nat.not_lt.mpr hm)]
  exact dif_neg hs

theorem negative_ofMagnitude (negative : Bool) (m : Nat) :
    (ofMagnitude negative m : Binary f).negative = negative := by
  by_cases hm : m < 2 ^ f.fractionBits
  · rw [ofMagnitude, if_pos hm]
  by_cases hs : f.excess m + 1 < f.special
  · rw [ofMagnitude_of_excess (Nat.le_of_not_lt hm) hs]
  · rw [ofMagnitude_of_not_excess (Nat.le_of_not_lt hm) hs, infinity]

theorem magnitude_ofMagnitude {m : Nat} (hm : f.Fits m) {negative : Bool}
    (hx : (ofMagnitude negative m : Binary f).isFinite = true) :
    (ofMagnitude negative m : Binary f).magnitude = m := by
  by_cases hlt : m < 2 ^ f.fractionBits
  · rw [ofMagnitude, if_pos hlt]
    exact Nat.mod_eq_of_lt hlt
  have hge := Nat.le_of_not_lt hlt
  by_cases hs : f.excess m + 1 < f.special
  · -- the quotient has a leading one, which the fraction field leaves out
    have hlow : 2 ^ f.fractionBits ≤ m / 2 ^ f.excess m := by
      rw [Nat.le_div_iff_mul_le (Nat.two_pow_pos _)]
      by_cases he : f.excess m = 0
      · rwa [he, Nat.pow_zero, Nat.mul_one]
      · exact f.two_pow_excess_le m he
    have hhigh : m / 2 ^ f.excess m < 2 ^ (f.fractionBits + 1) :=
      (Nat.div_lt_iff_lt_mul (Nat.two_pow_pos _)).mpr (f.lt_two_pow_excess m)
    have hdigits : 2 ^ f.fractionBits + m / 2 ^ f.excess m % 2 ^ f.fractionBits =
        m / 2 ^ f.excess m := by
      rw [Nat.mod_eq_sub_mod hlow, Nat.mod_eq_of_lt (by omega)]
      omega
    rw [ofMagnitude_of_excess hge hs, magnitude]
    simp only [Nat.add_one_ne_zero, if_false, Nat.add_sub_cancel, hdigits]
    exact Nat.div_mul_cancel hm.two_pow_excess_dvd
  · rw [ofMagnitude_of_not_excess hge hs, isFinite_infinity] at hx
    contradiction

theorem isFinite_ofMagnitude_mul {f' : Format} {k : Nat} (h : x.isFinite = true)
    (hf : 2 ≤ f.exponentBits) (hf' : 2 ≤ f'.exponentBits)
    (hk : f.fractionBits + (f.special - 1) + k ≤ f'.fractionBits + (f'.special - 1))
    (negative : Bool) :
    (ofMagnitude negative (x.magnitude * 2 ^ k) : Binary f').isFinite = true := by
  have hx := magnitude_lt_infinity h false hf
  rw [magnitude_infinity false hf] at hx
  rw [isFinite_ofMagnitude hf']
  calc x.magnitude * 2 ^ k
      < 2 ^ f.fractionBits * 2 ^ (f.special - 1) * 2 ^ k :=
        Nat.mul_lt_mul_of_pos_right hx (Nat.two_pow_pos k)
    _ = 2 ^ (f.fractionBits + (f.special - 1) + k) := by rw [Nat.pow_add, Nat.pow_add]
    _ ≤ 2 ^ (f'.fractionBits + (f'.special - 1)) := Nat.pow_le_pow_right (by decide) hk
    _ = 2 ^ f'.fractionBits * 2 ^ (f'.special - 1) := Nat.pow_add ..

theorem magnitude_lt_of_exponent_lt (h : x.exponent < y.exponent) : x.magnitude < y.magnitude := by
  have hx := x.fraction.isLt
  have he : x.exponent.val < y.exponent.val := h
  have hy : 2 ^ f.fractionBits * 2 ^ (y.exponent.val - 1) ≤ y.magnitude := by
    rw [magnitude, if_neg (by omega)]
    exact Nat.mul_le_mul_right _ (Nat.le_add_right _ _)
  refine lt_of_lt_of_le ?_ hy
  rw [magnitude]
  split
  · exact hx.trans_le (Nat.le_mul_of_pos_right _ (Nat.two_pow_pos _))
  · rename_i h0
    calc (2 ^ f.fractionBits + x.fraction.val) * 2 ^ (x.exponent.val - 1)
        < 2 ^ (f.fractionBits + 1) * 2 ^ (x.exponent.val - 1) :=
          Nat.mul_lt_mul_of_pos_right (by omega) (Nat.two_pow_pos _)
      _ = 2 ^ f.fractionBits * 2 ^ x.exponent.val := by
          rw [← Nat.pow_add, ← Nat.pow_add]
          congr 1
          omega
      _ ≤ 2 ^ f.fractionBits * 2 ^ (y.exponent.val - 1) :=
          Nat.mul_le_mul_left _ (Nat.pow_le_pow_right (by decide) (by omega))

theorem eq_of_magnitude_eq (hs : x.negative = y.negative) (hm : x.magnitude = y.magnitude) :
    x = y := by
  have he : x.exponent = y.exponent := by
    rcases lt_trichotomy x.exponent y.exponent with h | h | h
    · exact absurd hm (magnitude_lt_of_exponent_lt h).ne
    · exact h
    · exact absurd hm (magnitude_lt_of_exponent_lt h).ne'
  obtain ⟨s, e, m⟩ := x
  obtain ⟨s', e', m'⟩ := y
  obtain rfl : s = s' := hs
  obtain rfl : e = e' := he
  have hfrac : m.val = m'.val := by
    simp only [magnitude] at hm
    split at hm
    · exact hm
    · have h := Nat.eq_of_mul_eq_mul_right (Nat.two_pow_pos _) hm
      omega
  rw [Fin.ext hfrac]

/-- A sign and a place belong to one word at most. Zero has two words, with different signs. -/
theorem eq_of_place_eq (hf : 2 ≤ f.exponentBits) (hx : x.isNaN = false) (hy : y.isNaN = false)
    (hs : x.negative = y.negative) (hp : x.place = y.place) : x = y := by
  have hle := (place_le_iff hx hy hf).mp hp.le
  have hge := (place_le_iff hy hx hf).mp hp.ge
  refine eq_of_magnitude_eq hs ?_
  cases hn : y.negative with
  | true =>
    simp only [units, hs, hn, if_true] at hle hge
    omega
  | false =>
    simp only [units, hs, hn, Bool.false_eq_true, if_false] at hle hge
    omega

end Magnitude

section Widen

def unitGap : Nat := Format.double.unitShift - Format.single.unitShift

theorem unitShift_add_unitGap : Format.single.unitShift + unitGap = Format.double.unitShift := by
  decide

variable {x : Binary32} {y : Binary64}

theorem isFinite_ofMagnitude_widen (h : x.isFinite = true) :
    (ofMagnitude x.negative (x.magnitude * 2 ^ unitGap) : Binary64).isFinite = true :=
  isFinite_ofMagnitude_mul h (by decide) (by decide) (by decide) x.negative

theorem widen_of_isFinite (h : x.isFinite = true) :
    x.widen = ofMagnitude x.negative (x.magnitude * 2 ^ unitGap) := by
  simp only [widen, not_isNaN_of_isFinite h, h, Bool.false_eq_true, if_false, if_true, unitGap]

theorem widen_infinity (negative : Bool) :
    (infinity negative : Binary32).widen = infinity negative := by
  cases negative <;> decide

theorem isFinite_widen (h : x.isFinite = true) : x.widen.isFinite = true := by
  rw [widen_of_isFinite h]
  exact isFinite_ofMagnitude_widen h

theorem negative_widen (h : x.isNaN = false) : x.widen.negative = x.negative := by
  rcases finite_or_infinity h with h | rfl | rfl
  · rw [widen_of_isFinite h, negative_ofMagnitude]
  · rw [widen_infinity]
    rfl
  · rw [widen_infinity]
    rfl

theorem rational_widen (h : x.isFinite = true) : x.widen.rational = x.rational := by
  have hm : x.widen.magnitude = x.magnitude * 2 ^ unitGap := by
    rw [widen_of_isFinite h]
    exact magnitude_ofMagnitude (x.fits_magnitude.mul_two_pow (by decide) unitGap)
      (isFinite_ofMagnitude_widen h)
  have hsize : x.widen.size = x.size := by
    refine mul_right_cancel₀ (pow_ne_zero Format.double.unitShift two_ne_zero) ?_
    calc x.widen.size * 2 ^ Format.double.unitShift
        = x.magnitude * 2 ^ unitGap := by
          rw [size_mul_two_pow (by decide), hm, Nat.cast_mul, Nat.cast_pow, Nat.cast_two]
      _ = x.size * 2 ^ Format.single.unitShift * 2 ^ unitGap := by
          rw [size_mul_two_pow (by decide)]
      _ = x.size * 2 ^ Format.double.unitShift := by
          rw [mul_assoc, ← pow_add, unitShift_add_unitGap]
  rw [rational, rational, negative_widen (not_isNaN_of_isFinite h), hsize]

theorem place_widen (h : x.isNaN = false) : x.widen.place = x.place := by
  rcases finite_or_infinity h with h | rfl | rfl
  · rw [place_of_isFinite h, place_of_isFinite (isFinite_widen h), rational_widen h]
  · rw [widen_infinity, place_infinity_true, place_infinity_true]
  · rw [widen_infinity, place_infinity_false, place_infinity_false]

theorem isNaN_widen (h : x.isNaN = false) : x.widen.isNaN = false := by
  rcases finite_or_infinity h with h | rfl | rfl
  · exact not_isNaN_of_isFinite (isFinite_widen h)
  · decide
  · decide

/-- The double word for a single one: of the same sign, and for the same number or infinity. All
words of NaN count as one. -/
inductive SameNumber (x : Binary32) : Binary64 → Prop where
  | number {y : Binary64} (hx : x.isNaN = false) (hy : y.isNaN = false)
      (hs : y.negative = x.negative) (hp : y.place = x.place) : SameNumber x y
  | nan (hx : x.isNaN = true) : SameNumber x nan

theorem widen_eq_iff : x.widen = y ↔ x.SameNumber y := by
  have hwiden : x.SameNumber x.widen := by
    cases hx : x.isNaN with
    | true =>
      rw [widen, hx]
      exact .nan hx
    | false => exact .number hx (isNaN_widen hx) (negative_widen hx) (place_widen hx)
  constructor
  · rintro rfl
    exact hwiden
  · intro h
    cases h with
    | number hx hy hs hp =>
      refine eq_of_place_eq (by decide) (isNaN_widen hx) hy ?_ ?_
      · rw [negative_widen hx, hs]
      · rw [place_widen hx, hp]
    | nan hx =>
      rw [widen, hx]
      rfl

example : (ofBits 1 : Binary32).widen = ofBits 0x36a0000000000000 ∧
    (ofBits 0x80000000 : Binary32).widen = ofBits 0x8000000000000000 := by
  decide +kernel

end Widen

end Binary

end FieldRules.Number
