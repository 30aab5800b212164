import FieldRules.Proofs.Satisfaction

/-!
Least and greatest integers. Main statement: a numeral of the range, with zeros in front or none,
bounds exactly the integers on its side, itself among them; any other text bounds nothing, be it the
digits of a number out of the range.
-/

set_option autoImplicit false

namespace FieldRules

namespace Number

variable {s : List Char} {m : Int}

theorem integer?_eq_none (h : ∀ n, ¬ IntegerNumeral s n) : integer? s = none := by
  rw [Option.eq_none_iff_forall_ne_some]
  intro n hn
  exact h n (integer?_eq_some_iff.mp hn)

theorem not_integerNumeral_of_out_of_range (h : SignedDigits s m)
    (hm : ¬ (-2 ^ 127 ≤ m ∧ m < 2 ^ 127)) (n : Int) : ¬ IntegerNumeral s n := by
  intro hn
  obtain ⟨hl, hu, hn⟩ := integerNumeral_iff.mp hn
  have he : n = m := hn.unique h
  exact hm ⟨he ▸ hl, he ▸ hu⟩

end Number

namespace Check

open Number

theorem intMin_of_numeral {c : String} {n : Int} (h : IntegerNumeral c.toList n) (v : Int) :
    intMin v c = if n ≤ v then .pass else .reject ⟨"", .tooSmall, c⟩ := by
  simp only [intMin, judge_of_read (integer?_eq_some_iff.mpr h), decide_eq_true_eq]

theorem intMax_of_numeral {c : String} {n : Int} (h : IntegerNumeral c.toList n) (v : Int) :
    intMax v c = if v ≤ n then .pass else .reject ⟨"", .tooGreat, c⟩ := by
  simp only [intMax, judge_of_read (integer?_eq_some_iff.mpr h), decide_eq_true_eq]

theorem int_bounds_of_no_numeral {c : String} (h : ∀ n, ¬ IntegerNumeral c.toList n) (v : Int) :
    intMin v c = .fault (.invalidCondition "min" c) ∧
      intMax v c = .fault (.invalidCondition "max" c) :=
  ⟨judge_of_unread (integer?_eq_none h) _ _ _, judge_of_unread (integer?_eq_none h) _ _ _⟩

/-- Bounds are exact on the whole range. A number written as a decimal bounds by its value, so that
every integer is within one of its two bounds and only the number itself is within both. -/
theorem integer_bounds (v : Int) :
    (∀ c n, IntegerNumeral c.toList n →
      intMin v c = (if n ≤ v then .pass else .reject ⟨"", .tooSmall, c⟩) ∧
        intMax v c = (if v ≤ n then .pass else .reject ⟨"", .tooGreat, c⟩)) ∧
    (∀ c, (∀ n, ¬ IntegerNumeral c.toList n) →
      intMin v c = .fault (.invalidCondition "min" c) ∧
        intMax v c = .fault (.invalidCondition "max" c)) ∧
    (∀ c n, SignedDigits c.toList n → ¬ (-2 ^ 127 ≤ n ∧ n < 2 ^ 127) →
      intMin v c = .fault (.invalidCondition "min" c) ∧
        intMax v c = .fault (.invalidCondition "max" c)) ∧
    ∀ n, -2 ^ 127 ≤ n → n < 2 ^ 127 →
      (intMin v (toString n) = .pass ↔ n ≤ v) ∧ (intMax v (toString n) = .pass ↔ v ≤ n) ∧
        (intMin v (toString n) = .pass ∨ intMax v (toString n) = .pass) ∧
        (intMin v (toString n) = .pass ∧ intMax v (toString n) = .pass ↔ v = n) := by
  refine ⟨?_, ?_, ?_, ?_⟩
  · intro c n h
    exact ⟨intMin_of_numeral h v, intMax_of_numeral h v⟩
  · intro c h
    exact int_bounds_of_no_numeral h v
  · intro c n h hn
    exact int_bounds_of_no_numeral (not_integerNumeral_of_out_of_range h hn) v
  · intro n hl hu
    have hn : IntegerNumeral (toString n).toList n :=
      integerNumeral_iff.mpr ⟨hl, hu, signedDigits_toString n⟩
    have hmin : intMin v (toString n) = .pass ↔ n ≤ v := by
      rw [intMin_of_numeral hn]
      split <;> simp_all
    have hmax : intMax v (toString n) = .pass ↔ v ≤ n := by
      rw [intMax_of_numeral hn]
      split <;> simp_all
    rw [hmin, hmax]
    omega

example : intMin (-2 ^ 127) "-00170141183460469231731687303715884105728" = .pass ∧
    intMax 0 "170141183460469231731687303715884105728" =
      .fault (.invalidCondition "max" "170141183460469231731687303715884105728") := by
  decide +kernel

end Check

end FieldRules
