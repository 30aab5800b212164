import Mathlib.Tactic.Linarith
import Mathlib.Tactic.Positivity
import Mathlib.Tactic.Ring
import FieldRules.Number.Decimal
import FieldRules.Proofs.Numeral
import FieldRules.Proofs.Rational

/-!
Decimal numerals that are too great. Main statement: a decimal numeral is read as an infinity
exactly if its number lies half a step or more beyond the greatest finite number of the format.
-/

set_option autoImplicit false

namespace FieldRules.Number

theorem div_le_roundHalfEven (num den : Nat) : num / den ≤ roundHalfEven num den := by
  simp only [roundHalfEven]
  split
  · exact Nat.le_refl _
  · split <;> omega

theorem roundHalfEven_le (num den : Nat) : roundHalfEven num den ≤ num / den + 1 := by
  simp only [roundHalfEven]
  split
  · omega
  · split <;> omega

/-- An even number is reached from half a step below it on. -/
theorem roundHalfEven_lt_iff {num den k : Nat} (hd : 0 < den) (hk : k % 2 = 0) :
    roundHalfEven num den < k ↔ 2 * num + den < 2 * (den * k) := by
  have hle : ∀ j, num / den + j ≤ k → den * (num / den) + den * j ≤ den * k := by
    intro j hj
    rw [← Nat.mul_add]
    exact Nat.mul_le_mul_left den hj
  have hge : ∀ j, k ≤ num / den + j → den * k ≤ den * (num / den) + den * j := by
    intro j hj
    rw [← Nat.mul_add]
    exact Nat.mul_le_mul_left den hj
  have hdiv := Nat.div_add_mod num den
  have hmod := Nat.mod_lt num hd
  simp only [roundHalfEven]
  split
  · by_cases h : num / den < k
    · have := hle 1 h
      omega
    · have := hge 0 (by omega)
      omega
  · by_cases h : num / den + 1 < k
    · have := hle 2 h
      split <;> omega
    · have := hge 1 (by omega)
      split <;> omega

namespace Format

variable {f : Format} {num den : Nat}

theorem lt_two_pow_excess (f : Format) (q : Nat) :
    q < 2 ^ (f.fractionBits + 1) * 2 ^ f.excess q := by
  have hpow : q.log2 + 1 ≤ f.fractionBits + 1 + f.excess q := by
    simp only [excess]
    omega
  rw [← Nat.pow_add]
  exact Nat.lt_log2_self.trans_le (Nat.pow_le_pow_right (by decide) hpow)

theorem two_pow_excess_le (f : Format) (q : Nat) (h : f.excess q ≠ 0) :
    2 ^ f.fractionBits * 2 ^ f.excess q ≤ q := by
  have hq : q ≠ 0 := by
    rintro rfl
    simp [excess] at h
  have hpow : f.fractionBits + f.excess q = q.log2 := by
    simp only [excess] at h ⊢
    omega
  rw [← Nat.pow_add, hpow]
  exact Nat.log2_self_le hq

theorem nearest_le (f : Format) (num den : Nat) :
    f.nearest num den ≤ 2 ^ (f.fractionBits + 1) * 2 ^ f.excess (num / den) := by
  refine Nat.mul_le_mul_right _ ((roundHalfEven_le _ _).trans ?_)
  rw [← Nat.div_div_eq_div_mul]
  exact (Nat.div_lt_iff_lt_mul (Nat.two_pow_pos _)).mpr (lt_two_pow_excess f _)

theorem le_nearest (f : Format) (num den : Nat) (h : f.excess (num / den) ≠ 0) :
    2 ^ f.fractionBits * 2 ^ f.excess (num / den) ≤ f.nearest num den := by
  refine Nat.mul_le_mul_right _ (le_trans ?_ (div_le_roundHalfEven _ _))
  rw [← Nat.div_div_eq_div_mul]
  exact (Nat.le_div_iff_mul_le (Nat.two_pow_pos _)).mpr (two_pow_excess_le f _ h)

theorem nearest_lt_iff (hd : 0 < den) (p : Nat) :
    f.nearest num den < 2 ^ (f.fractionBits + 1) * 2 ^ p ↔
      2 * num + den * 2 ^ p < 2 * (den * 2 ^ p * 2 ^ (f.fractionBits + 1)) := by
  have hlt := (Nat.div_lt_iff_lt_mul hd).mp (lt_two_pow_excess f (num / den))
  have hge := fun h => (Nat.le_div_iff_mul_le hd).mp (two_pow_excess_le f (num / den) h)
  have hup := nearest_le f num den
  have hdown := le_nearest f num den
  rcases Nat.lt_trichotomy (f.excess (num / den)) p with he | he | he
  · -- the number stays below the power in its own binade
    have hstep : 2 * 2 ^ f.excess (num / den) ≤ 2 ^ p := by
      rw [← Nat.pow_succ']
      exact Nat.pow_le_pow_right (by decide) he
    have hless : 2 ^ f.excess (num / den) < 2 ^ p := Nat.pow_lt_pow_right (by decide) he
    refine iff_of_true (hup.trans_lt (Nat.mul_lt_mul_of_pos_left hless (Nat.two_pow_pos _))) ?_
    have hsmall : den * 2 ^ p ≤ den * 2 ^ p * 2 ^ (f.fractionBits + 1) :=
      Nat.le_mul_of_pos_right _ (Nat.two_pow_pos _)
    have htwice : 2 * num < den * 2 ^ p * 2 ^ (f.fractionBits + 1) := by
      calc 2 * num
          < 2 * (2 ^ (f.fractionBits + 1) * 2 ^ f.excess (num / den) * den) :=
            Nat.mul_lt_mul_of_pos_left hlt (by decide)
        _ = 2 ^ (f.fractionBits + 1) * den * (2 * 2 ^ f.excess (num / den)) := by ac_rfl
        _ ≤ 2 ^ (f.fractionBits + 1) * den * 2 ^ p := Nat.mul_le_mul_left _ hstep
        _ = den * 2 ^ p * 2 ^ (f.fractionBits + 1) := by ac_rfl
    omega
  · rw [nearest, he, Nat.mul_lt_mul_right (Nat.two_pow_pos p)]
    exact roundHalfEven_lt_iff (Nat.mul_pos hd (Nat.two_pow_pos p)) (by omega)
  · -- the power is the beginning of the number's binade or lies before it
    have hstep : 2 * 2 ^ p ≤ 2 ^ f.excess (num / den) := by
      rw [← Nat.pow_succ']
      exact Nat.pow_le_pow_right (by decide) he
    have hne : f.excess (num / den) ≠ 0 := by omega
    have hpow : 2 ^ (f.fractionBits + 1) * 2 ^ p ≤
        2 ^ f.fractionBits * 2 ^ f.excess (num / den) := by
      rw [Nat.pow_succ, Nat.mul_assoc]
      exact Nat.mul_le_mul_left _ hstep
    refine iff_of_false (Nat.not_lt.mpr (hpow.trans (hdown hne))) ?_
    have hbig : den * 2 ^ p * 2 ^ (f.fractionBits + 1) ≤ num := by
      calc den * 2 ^ p * 2 ^ (f.fractionBits + 1)
          = 2 ^ (f.fractionBits + 1) * 2 ^ p * den := by ac_rfl
        _ ≤ 2 ^ f.fractionBits * 2 ^ f.excess (num / den) * den := Nat.mul_le_mul_right _ hpow
        _ ≤ num := hge hne
    omega

/-- The least distance from zero that is too great for a finite number. It is half a step beyond the
greatest of them. -/
def overflow (f : Format) : ℚ := 2 ^ (f.bias + 1) - (2 : ℚ) ^ (f.bias - f.fractionBits - 1 : ℤ)

theorem overflow_mul_two_pow (hf : 2 ≤ f.exponentBits) :
    f.overflow * 2 ^ f.unitShift = (2 ^ (f.fractionBits + 2) - 1) * 2 ^ (f.special - 3) := by
  have hb := one_le_bias hf
  have hwhole : (2 : ℚ) ^ (f.bias + 1) * 2 ^ f.unitShift =
      2 ^ (f.fractionBits + 2) * 2 ^ (f.special - 3) := by
    rw [← pow_add, ← pow_add, unitShift_eq, special_eq hf]
    congr 1
    omega
  have hstep : (2 : ℚ) ^ (f.bias - f.fractionBits - 1 : ℤ) * 2 ^ f.unitShift =
      2 ^ (f.special - 3) := by
    rw [← zpow_natCast, ← zpow_natCast, ← zpow_add₀ two_ne_zero, unitShift_eq, special_eq hf]
    congr 1
    omega
  rw [overflow, sub_mul, hwhole, hstep, sub_mul, one_mul]

theorem overflow_lt (f : Format) : f.overflow < 2 ^ (f.bias + 1) :=
  sub_lt_self _ (zpow_pos two_pos _)

theorem one_le_overflow (f : Format) : 1 ≤ f.overflow := by
  have hstep : (2 : ℚ) ^ (f.bias - f.fractionBits - 1 : ℤ) ≤ 2 ^ f.bias := by
    rw [← zpow_natCast]
    exact zpow_le_zpow_right₀ one_le_two (by omega)
  have hone : (1 : ℚ) ≤ 2 ^ f.bias := one_le_pow₀ one_le_two
  rw [overflow, pow_succ]
  linarith

end Format

theorem Binary.isFinite_ofMagnitude {f : Format} (hf : 2 ≤ f.exponentBits) (negative : Bool)
    (m : Nat) :
    (ofMagnitude negative m : Binary f).isFinite = true ↔
      m < 2 ^ f.fractionBits * 2 ^ (f.special - 1) := by
  have hs := Format.special_eq hf
  have hone := Nat.two_pow_pos (f.special - 1)
  by_cases hm : m < 2 ^ f.fractionBits
  · have hzero : (0 : Nat) ≠ f.special := by omega
    rw [ofMagnitude, if_pos hm]
    exact iff_of_true (by simp [isFinite, hzero]) (hm.trans_le (Nat.le_mul_of_pos_right _ hone))
  · have hm0 : m ≠ 0 := by
      have := Nat.two_pow_pos f.fractionBits
      omega
    have hlog : m < 2 ^ f.fractionBits * 2 ^ (f.special - 1) ↔
        m.log2 - f.fractionBits + 1 < f.special := by
      have hfrac : f.fractionBits ≤ m.log2 := (Nat.le_log2 hm0).mpr (by omega)
      rw [← Nat.pow_add, ← Nat.log2_lt hm0]
      omega
    rw [hlog, ofMagnitude, if_neg hm]
    by_cases hshift : m.log2 - f.fractionBits + 1 < f.special
    · simp [hshift, isFinite, Nat.ne_of_lt hshift]
    · simp [hshift, isFinite, infinity]

theorem Binary.isFinite_ofMagnitude_nearest {f : Format} {num den : Nat}
    (hf : 2 ≤ f.exponentBits) (hd : 0 < den) (negative : Bool) :
    (ofMagnitude negative (f.nearest num den) : Binary f).isFinite = true ↔
      (num : ℚ) < f.overflow * 2 ^ f.unitShift * den := by
  have hb := Format.one_le_bias hf
  have hs := Format.special_eq hf
  have hlimit : 2 ^ f.fractionBits * 2 ^ (f.special - 1) =
      2 ^ (f.fractionBits + 1) * 2 ^ (f.special - 3 + 1) := by
    rw [← Nat.pow_add, ← Nat.pow_add]
    congr 1
    omega
  rw [isFinite_ofMagnitude hf, hlimit, Format.nearest_lt_iff hd, Format.overflow_mul_two_pow hf]
  have hnat : 2 * num + den * 2 ^ (f.special - 3 + 1) <
        2 * (den * 2 ^ (f.special - 3 + 1) * 2 ^ (f.fractionBits + 1)) ↔
      num + 2 ^ (f.special - 3) * den < 2 ^ (f.fractionBits + 2) * 2 ^ (f.special - 3) * den := by
    have hleft : den * 2 ^ (f.special - 3 + 1) = 2 * (2 ^ (f.special - 3) * den) := by
      ring
    have hright : 2 * (2 ^ (f.special - 3) * den) * 2 ^ (f.fractionBits + 1) =
        2 ^ (f.fractionBits + 2) * 2 ^ (f.special - 3) * den := by
      ring
    rw [hleft, hright]
    omega
  rw [hnat, ← Nat.cast_lt (α := ℚ), sub_mul, sub_mul, one_mul, lt_sub_iff_add_lt]
  norm_cast

namespace Decimal

def magnitude (d : Decimal) : ℚ := d.digits * (10 : ℚ) ^ d.exponent

theorem magnitude_mul (d : Decimal) :
    d.magnitude * (10 ^ (-d.exponent).toNat : Nat) = (d.digits * 10 ^ d.exponent.toNat : Nat) := by
  have hpow : (10 : ℚ) ^ d.exponent * 10 ^ (-d.exponent).toNat = 10 ^ d.exponent.toNat := by
    rw [← zpow_natCast, ← zpow_natCast, ← zpow_add₀ (by norm_num)]
    congr 1
    omega
  rw [magnitude]
  push_cast
  rw [mul_assoc, hpow]

theorem overflow_le_magnitude {f : Format} {d : Decimal} (hd : d.digits ≠ 0)
    (he : (2 ^ (f.exponentBits - 1) : Nat) < d.exponent) : f.overflow ≤ d.magnitude := by
  have hdigits : (1 : ℚ) ≤ d.digits := by exact_mod_cast Nat.one_le_iff_ne_zero.mpr hd
  rw [← Format.bias_add_one] at he
  calc f.overflow ≤ 2 ^ (f.bias + 1) := f.overflow_lt.le
    _ ≤ 10 ^ (f.bias + 1) := pow_le_pow_left₀ zero_le_two (by norm_num) _
    _ ≤ 10 ^ d.exponent := by
      rw [← zpow_natCast]
      exact zpow_le_zpow_right₀ (by norm_num) he.le
    _ ≤ d.magnitude := le_mul_of_one_le_left (zpow_nonneg (by norm_num) _) hdigits

theorem magnitude_lt_overflow {f : Format} {d : Decimal}
    (he : d.exponent + d.digits.log2 + 1 < 0) : d.magnitude < f.overflow := by
  have hdigits : (d.digits : ℚ) < 2 ^ (d.digits.log2 + 1 : ℤ) := by
    have h : d.digits < 2 ^ (d.digits.log2 + 1) := Nat.lt_log2_self
    exact_mod_cast h
  have hpow : (10 : ℚ) ^ d.exponent ≤ 2 ^ d.exponent := by
    obtain ⟨k, hk⟩ := Int.exists_eq_neg_ofNat (a := d.exponent) (by omega)
    rw [hk, zpow_neg, zpow_neg, zpow_natCast, zpow_natCast]
    exact inv_anti₀ (pow_pos two_pos k) (pow_le_pow_left₀ zero_le_two (by norm_num) k)
  refine lt_of_lt_of_le ?_ f.one_le_overflow
  calc d.magnitude ≤ d.digits * 2 ^ d.exponent := mul_le_mul_of_nonneg_left hpow (Nat.cast_nonneg _)
    _ < 2 ^ (d.digits.log2 + 1 : ℤ) * 2 ^ d.exponent :=
      mul_lt_mul_of_pos_right hdigits (zpow_pos two_pos _)
    _ = 2 ^ (d.digits.log2 + 1 + d.exponent : ℤ) := (zpow_add₀ two_ne_zero _ _).symm
    _ ≤ 1 := zpow_le_one_of_nonpos₀ one_le_two (by omega)

/-- A decimal becomes a finite number unless it lies half a step or more beyond the greatest. -/
theorem isFinite_toBinary {f : Format} (hf : 2 ≤ f.exponentBits) (d : Decimal) :
    (d.toBinary f).isFinite = true ↔ d.magnitude < f.overflow := by
  have hzero : (Binary.ofMagnitude d.negative 0 : Binary f).isFinite = true :=
    (Binary.isFinite_ofMagnitude hf _ _).mpr (Nat.mul_pos (Nat.two_pow_pos _) (Nat.two_pow_pos _))
  by_cases hd : d.digits = 0
  · have hm : d.magnitude = 0 := by rw [magnitude, hd, Nat.cast_zero, zero_mul]
    rw [toBinary, if_pos hd, hm]
    exact iff_of_true hzero (one_pos.trans_le f.one_le_overflow)
  by_cases hbig : (2 ^ (f.exponentBits - 1) : Nat) < d.exponent
  · rw [toBinary, if_neg hd, if_pos hbig]
    refine iff_of_false ?_ (not_lt.mpr (overflow_le_magnitude hd hbig))
    simp [Binary.infinity, Binary.isFinite]
  by_cases hsmall : d.exponent + d.digits.log2 + 1 < -((f.unitShift : Int) + 1)
  · rw [toBinary, if_neg hd, if_neg hbig, if_pos hsmall]
    exact iff_of_true hzero (magnitude_lt_overflow (by omega))
  have hden : 0 < 10 ^ (-d.exponent).toNat := Nat.pow_pos (by decide)
  have hunits : (0 : ℚ) < 2 ^ f.unitShift * (10 ^ (-d.exponent).toNat : Nat) := by positivity
  have hnum : ((d.digits * 10 ^ d.exponent.toNat * 2 ^ f.unitShift : Nat) : ℚ) =
      d.magnitude * (2 ^ f.unitShift * (10 ^ (-d.exponent).toNat : Nat)) := by
    rw [Nat.cast_mul, ← magnitude_mul]
    push_cast
    ring
  rw [toBinary, if_neg hd, if_neg hbig, if_neg hsmall, Binary.isFinite_ofMagnitude_nearest hf hden,
    hnum, mul_assoc, mul_lt_mul_iff_left₀ hunits]

def ofText? : List Char → Option Decimal
  | '+' :: s => unsigned? false s
  | '-' :: s => unsigned? true s
  | s => unsigned? false s

theorem exists_cons_of_unsigned? {negative : Bool} {s : List Char} {d : Decimal}
    (h : unsigned? negative s = some d) : ∃ c t, s = c :: t ∧ (c.isDigit = true ∨ c = '.') := by
  cases s with
  | nil => cases h
  | cons c t =>
    refine ⟨c, t, rfl, ?_⟩
    by_contra hc
    push Not at hc
    have hd : (digit? c).isSome = false := by simp [digit?_eq_ite, hc.1]
    have hf : fraction (c :: t) = ([], c :: t) := by
      rw [fraction]
      intro u hu
      exact hc.2 (List.cons.inj hu).1
    have hs : (c :: t).span (fun c => (digit? c).isSome) = ([], c :: t) := by
      simp [List.span, List.span.loop, hd]
    simp only [unsigned?, hs, hf, List.append_nil, digits?_nil] at h
    contradiction

end Decimal

theorem toLower_of_isDigit {c : Char} (h : c.isDigit = true) : c.toLower = c := by
  simp only [Char.isDigit, Bool.and_eq_true, decide_eq_true_eq, UInt32.le_iff_toNat_le] at h
  refine dif_neg fun hu => ?_
  have hA : 65 ≤ c.val.toNat := hu.1
  have h9 : c.val.toNat ≤ 57 := h.2
  omega

theorem specialWord?_eq_none (f : Format) (negative : Bool) {c : Char} {t : List Char}
    (hc : c.isDigit = true ∨ c = '.') : specialWord? f negative (c :: t) = none := by
  have hlow : c.toLower = c := by
    rcases hc with hc | rfl
    · exact toLower_of_isDigit hc
    · decide
  have hi : c ≠ 'i' ∧ c ≠ 'n' := by
    constructor <;> (rintro rfl; revert hc; decide)
  simp [specialWord?, hlow, hi]

theorem Binary.unsigned?_of_decimal (f : Format) {negative : Bool} {s : List Char} {d : Decimal}
    (h : Decimal.unsigned? negative s = some d) :
    Binary.unsigned? f negative s = some (d.toBinary f) := by
  obtain ⟨c, t, rfl, hc⟩ := Decimal.exists_cons_of_unsigned? h
  rw [Binary.unsigned?, specialWord?_eq_none f negative hc, h, Option.map_some]

theorem Binary.ofText?_of_decimal (f : Format) {s : List Char} {d : Decimal}
    (h : Decimal.ofText? s = some d) : Binary.ofText? f s = some (d.toBinary f) := by
  unfold Decimal.ofText? at h
  split at h
  · exact unsigned?_of_decimal f h
  · exact unsigned?_of_decimal f h
  · rename_i hp hm
    rw [Binary.ofText?]
    · exact unsigned?_of_decimal f h
    · exact hp
    · exact hm

end FieldRules.Number
