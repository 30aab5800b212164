import FieldRules.Proofs.Conditions
import FieldRules.Proofs.Overflow

/-!
Least and greatest floating-point numbers. Main statement: a finite bound divides all words but NaN
by the numbers that they are, infinities among them; a text that stands for no finite number, be it
a decimal that is too great, bounds nothing.
-/

set_option autoImplicit false

namespace FieldRules

namespace Number

theorem overflow_double : Format.double.overflow = 2 ^ 1024 - 2 ^ 970 := by
  have hb : Format.double.bias = 1023 := by decide
  have hf : Format.double.fractionBits = 52 := rfl
  rw [Format.overflow, hb, hf, ← zpow_natCast _ 970]
  rfl

end Number

namespace Check

open Number

variable {v w b : Binary64} {c : String}

/-- The conditions that bound nothing: no numerals, and those of NaN and of the infinities. -/
def Limitless (c : String) : Prop :=
  Binary.ofText? .double c.toList = none ∨ ∃ x, Binary.ofText? .double c.toList = some x ∧
    (x.isNaN = true ∨ x = .infinity true ∨ x = .infinity false)

theorem limitless_iff : Limitless c ↔
    ¬ ∃ x, Binary.ofText? .double c.toList = some x ∧ x.isFinite = true := by
  simp only [Limitless, ← Binary.isFinite_eq_false_iff]
  cases Binary.ofText? .double c.toList <;> simp

theorem judge_limitless_iff (rule : String) (accepts : Binary64 → Bool) (reason : Reason) :
    Verdict.judge (readCondition rule floatBound? c) accepts reason c =
      .fault (.invalidCondition rule c) ↔ Limitless c := by
  rw [judge_eq_fault_iff_not Iff.rfl, limitless_iff]
  simp only [floatBound?_eq_some_iff]

theorem limitless_iff_overflow {d : Decimal} (h : Decimal.ofText? c.toList = some d) :
    Limitless c ↔ 2 ^ 1024 - 2 ^ 970 ≤ d.magnitude := by
  have hd := Binary.ofText?_of_decimal .double h
  rw [limitless_iff, ← overflow_double, ← not_lt, ← Decimal.isFinite_toBinary (by decide), hd]
  simp only [Option.some.injEq, exists_eq_left']

section Limit

variable (h : Binary.ofText? .double c.toList = some b) (hb : b.isFinite = true)
include h hb

theorem floatMin_of_limit (v : Binary64) :
    floatMin v c = if v.isNaN = false ∧ b.place ≤ v.place then .pass
      else .reject ⟨"", .tooSmall, c⟩ := by
  have hread : floatBound? c.toList = some b := floatBound?_eq_some_iff.mpr ⟨h, hb⟩
  simp only [floatMin, judge_of_read hread, Binary.le_iff_place (f := .double) (by decide),
    Binary.not_isNaN_of_isFinite hb, true_and]

theorem floatMax_of_limit (v : Binary64) :
    floatMax v c = if v.isNaN = false ∧ v.place ≤ b.place then .pass
      else .reject ⟨"", .tooGreat, c⟩ := by
  have hread : floatBound? c.toList = some b := floatBound?_eq_some_iff.mpr ⟨h, hb⟩
  simp only [floatMax, judge_of_read hread, Binary.le_iff_place (f := .double) (by decide),
    Binary.not_isNaN_of_isFinite hb, true_and]

theorem floatMin_eq_pass_iff_place :
    floatMin v c = .pass ↔ v.isNaN = false ∧ b.place ≤ v.place := by
  rw [floatMin_of_limit h hb, Verdict.ite_eq_pass_iff]

theorem floatMax_eq_pass_iff_place :
    floatMax v c = .pass ↔ v.isNaN = false ∧ v.place ≤ b.place := by
  rw [floatMax_of_limit h hb, Verdict.ite_eq_pass_iff]

end Limit

/-- Bounds compare numbers and not words. NaN is within no bound; any other word lies on one side of
a bound at least, and on both only where it is the same number. -/
theorem float_bounds (v : Binary64) :
    (∀ c, (floatMin v c = .fault (.invalidCondition "min" c) ↔ Limitless c) ∧
      (floatMax v c = .fault (.invalidCondition "max" c) ↔ Limitless c)) ∧
    (∀ c d, Decimal.ofText? c.toList = some d →
      (Limitless c ↔ 2 ^ 1024 - 2 ^ 970 ≤ d.magnitude)) ∧
    ∀ c, ¬ Limitless c →
      ∃ b, Binary.ofText? .double c.toList = some b ∧ b.isFinite = true ∧
        floatMin v c = (if v.isNaN = false ∧ b.place ≤ v.place then .pass
          else .reject ⟨"", .tooSmall, c⟩) ∧
        floatMax v c = (if v.isNaN = false ∧ v.place ≤ b.place then .pass
          else .reject ⟨"", .tooGreat, c⟩) ∧
        (v.isNaN = true → floatMin v c = .reject ⟨"", .tooSmall, c⟩ ∧
          floatMax v c = .reject ⟨"", .tooGreat, c⟩) ∧
        (v.isNaN = false → floatMin v c = .pass ∨ floatMax v c = .pass) ∧
        (floatMin v c = .pass ∧ floatMax v c = .pass ↔
          v.isFinite = true ∧ v.rational = b.rational) ∧
        ∀ w, floatMin v c = .pass → w.isNaN = false → v.place ≤ w.place →
          floatMin w c = .pass := by
  refine ⟨fun c => ⟨judge_limitless_iff _ _ _, judge_limitless_iff _ _ _⟩,
    fun c d h => limitless_iff_overflow h, ?_⟩
  intro c hc
  rw [limitless_iff, not_not] at hc
  obtain ⟨b, h, hb⟩ := hc
  have hmin : ∀ x, floatMin x c = .pass ↔ x.isNaN = false ∧ b.place ≤ x.place :=
    fun x => floatMin_eq_pass_iff_place h hb
  have hmax : floatMax v c = .pass ↔ v.isNaN = false ∧ v.place ≤ b.place :=
    floatMax_eq_pass_iff_place h hb
  refine ⟨b, h, hb, floatMin_of_limit h hb v, floatMax_of_limit h hb v, ?_, ?_, ?_, ?_⟩
  · intro hv
    rw [floatMin_of_limit h hb, floatMax_of_limit h hb]
    simp [hv]
  · intro hv
    rw [hmin, hmax, and_iff_right hv, and_iff_right hv]
    exact le_total _ _
  · rw [hmin, hmax]
    constructor
    · intro hv
      obtain ⟨⟨hn, hge⟩, -, hle⟩ := hv
      exact (Binary.place_eq_iff hn hb).mp (le_antisymm hle hge)
    · intro hv
      have hn := Binary.not_isNaN_of_isFinite hv.1
      have he := (Binary.place_eq_iff hn hb).mpr hv
      exact ⟨⟨hn, he.ge⟩, hn, he.le⟩
  · intro w hv hw hle
    rw [hmin] at hv ⊢
    exact ⟨hw, hv.2.trans hle⟩

example : floatMin (.ofMagnitude true 0) "0" = .pass ∧ floatMax (.ofMagnitude false 1) "0" =
    .reject ⟨"", .tooGreat, "0"⟩ ∧ floatMax (.infinity true) "-1e309" =
    .fault (.invalidCondition "max" "-1e309") := by
  decide +kernel

end Check

end FieldRules
