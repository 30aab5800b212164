import FieldRules.Proofs.Conditions
import FieldRules.Text.Blank

/-!
Lengths of strings. Main statement: a numeral of sixty-four bits accepts exactly the strings with so
many characters, and any other text is no length, be it a number that is too great or one with a
minus sign.
-/

set_option autoImplicit false

namespace FieldRules

theorem Text.isBlank_of_isDigit {c : Char} (h : c.isDigit = true) : isBlank c = false := by
  simp only [Char.isDigit, Bool.and_eq_true, decide_eq_true_eq, UInt32.le_iff_toNat_le] at h
  change 48 ≤ c.toNat ∧ c.toNat ≤ 57 at h
  simp only [isBlank, Bool.or_eq_false_iff, Bool.and_eq_false_iff, decide_eq_false_iff_not,
    beq_eq_false_iff_ne]
  omega

namespace Number

variable {s t : List Char} {n k : Nat}

theorem Digits.exists_isDigit (h : Digits s n) : ∃ c ∈ s, c.isDigit = true := by
  obtain ⟨c, t, rfl⟩ := List.exists_cons_of_ne_nil h.ne_nil
  exact ⟨c, List.mem_cons_self .., h.isDigit c (List.mem_cons_self ..)⟩

theorem LengthNumeral.isDigit_or_plus (h : LengthNumeral s n) {c : Char} (hc : c ∈ s) :
    c.isDigit = true ∨ c = '+' := by
  obtain ⟨-, t, ht, rfl | rfl⟩ := h
  · exact Or.inl (ht.isDigit c hc)
  · rcases List.mem_cons.mp hc with rfl | hc
    · exact Or.inr rfl
    · exact Or.inl (ht.isDigit c hc)

theorem LengthNumeral.exists_isDigit (h : LengthNumeral s n) : ∃ c ∈ s, c.isDigit = true := by
  obtain ⟨-, t, ht, rfl | rfl⟩ := h
  · exact ht.exists_isDigit
  · obtain ⟨c, hc, hd⟩ := ht.exists_isDigit
    exact ⟨c, List.mem_cons_of_mem _ hc, hd⟩

theorem LengthNumeral.eq_of_digits (h : LengthNumeral s n) (ht : Digits t k)
    (hs : s = t ∨ s = '+' :: t) : k = n := by
  obtain ⟨-, u, hu, hsu⟩ := h
  have hut : u = t := by
    rcases hs with rfl | rfl
    · rcases hsu with h | rfl
      · exact h.symm
      · exact absurd rfl ht.head_ne_sign.1
    · rcases hsu with rfl | h
      · exact absurd rfl hu.head_ne_sign.1
      · exact (List.cons.inj h).2.symm
  exact ht.unique (hut ▸ hu)

theorem lengthNumeral_toString (h : n < 2 ^ 64) : LengthNumeral (toString n).toList n := by
  refine ⟨h, Nat.toDigits 10 n, digits_toDigits n, Or.inl ?_⟩
  rw [Nat.toString_eq_repr, Nat.toList_repr]

end Number

namespace Check

open Number

variable {c : String} {n : Nat}

theorem length_of_numeral (h : LengthNumeral c.toList n) (s : String) :
    length s c = if s.length = n then .pass else .reject ⟨"", .lengthDiffers, c⟩ := by
  simp only [length, judge_of_read (length?_eq_some_iff.mpr h), decide_eq_true_eq]

theorem length_eq_fault_iff (s : String) :
    length s c = .fault (.invalidCondition "len" c) ↔ ∀ n, ¬ LengthNumeral c.toList n := by
  have hread : (∃ n, length? c.toList = some n) ↔ ∃ n, LengthNumeral c.toList n := by
    simp only [length?_eq_some_iff]
  rw [length, judge_eq_fault_iff_not hread, not_exists]

theorem length_eq_pass_iff_of_numeral (h : LengthNumeral c.toList n) (s : String) :
    length s c = .pass ↔ s.length = n := by
  rw [length_of_numeral h, Verdict.ite_eq_pass_iff]

/-- A length is counted in characters and compared as a number, so that it adds up when strings are
put together, and only one length fits a string. -/
theorem exact_length (s : String) :
    (∀ c n, LengthNumeral c.toList n →
      length s c = if s.toList.length = n then .pass else .reject ⟨"", .lengthDiffers, c⟩) ∧
    (∀ c, (∀ n, ¬ LengthNumeral c.toList n) → length s c = .fault (.invalidCondition "len" c)) ∧
    (∀ c : String, '-' ∈ c.toList ∨ (∃ w ∈ c.toList, Text.isBlank w = true) ∨
        (∀ d ∈ c.toList, d.isDigit = false) → length s c = .fault (.invalidCondition "len" c)) ∧
    (∀ c t n, Digits t n → (c.toList = t ∨ c.toList = '+' :: t) → 2 ^ 64 ≤ n →
      length s c = .fault (.invalidCondition "len" c)) ∧
    (∀ t n, n < 2 ^ 64 →
      (length (s ++ t) (toString n) = .pass ↔ n = s.length + t.length)) ∧
    ∀ c c' n n', LengthNumeral c.toList n → LengthNumeral c'.toList n' →
      length s c = .pass → length s c' = .pass → n = n' := by
  refine ⟨?_, fun c => (length_eq_fault_iff s).mpr, ?_, ?_, ?_, ?_⟩
  · intro c n h
    rw [length_of_numeral h, String.length_toList]
  · intro c hc
    refine (length_eq_fault_iff s).mpr fun n hn => ?_
    rcases hc with hm | ⟨w, hw, hb⟩ | hd
    · have hchar := hn.isDigit_or_plus hm
      revert hchar
      decide
    · rcases hn.isDigit_or_plus hw with hdig | rfl
      · simp [Text.isBlank_of_isDigit hdig] at hb
      · revert hb
        decide
    · obtain ⟨d, hm, hdig⟩ := hn.exists_isDigit
      simp [hd d hm] at hdig
  · intro c t n ht hs hn
    refine (length_eq_fault_iff s).mpr fun k hk => ?_
    have he := hk.eq_of_digits ht hs
    have hlt := hk.1
    omega
  · intro t n hn
    rw [length_eq_pass_iff_of_numeral (lengthNumeral_toString hn), String.length_append, eq_comm]
  · intro c c' n n' h h' hp hp'
    rw [length_eq_pass_iff_of_numeral h] at hp
    rw [length_eq_pass_iff_of_numeral h'] at hp'
    exact hp.symm.trans hp'

example : length "дом" "+003" = .pass ∧
    length "" "18446744073709551616" = .fault (.invalidCondition "len" "18446744073709551616") ∧
    length "" "-0" = .fault (.invalidCondition "len" "-0") := by
  decide +kernel

end Check

end FieldRules
