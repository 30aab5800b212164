import FieldRules.Number.Reading
import Mathlib.Algebra.Order.Ring.Int

/-!
Numerals as texts that denote numbers. Main statements: the readers of lengths and of integers
accept exactly the numerals of their range, and give the number that the numeral denotes.
-/

set_option autoImplicit false

namespace FieldRules.Number

/-- One or more ASCII digits, which denote `n`. -/
structure Digits (s : List Char) (n : Nat) : Prop where
  ne_nil : s ≠ []
  isDigit : ∀ c ∈ s, c.isDigit = true
  value : Nat.ofDigitChars 10 s 0 = n

/-- Digits after a plus sign or none, for a number of sixty-four bits. -/
def LengthNumeral (s : List Char) (n : Nat) : Prop :=
  n < 2 ^ 64 ∧ ∃ t, Digits t n ∧ (s = t ∨ s = '+' :: t)

/-- Digits after one sign or none, for a number of 128 bits in two's complement. -/
def IntegerNumeral (s : List Char) (m : Int) : Prop :=
  -2 ^ 127 ≤ m ∧ m < 2 ^ 127 ∧
    ∃ t n, Digits t n ∧ ((s = t ∨ s = '+' :: t) ∧ m = n ∨ s = '-' :: t ∧ m = -n)

/-- Digits after one sign or none, for a number of any size. -/
def SignedDigits (s : List Char) (m : Int) : Prop :=
  ∃ t n, Digits t n ∧ ((s = t ∨ s = '+' :: t) ∧ m = n ∨ s = '-' :: t ∧ m = -n)

theorem integerNumeral_iff {s : List Char} {m : Int} :
    IntegerNumeral s m ↔ -2 ^ 127 ≤ m ∧ m < 2 ^ 127 ∧ SignedDigits s m := Iff.rfl

theorem digit?_eq_ite (c : Char) :
    digit? c = if c.isDigit then some (c.toNat - '0'.toNat) else none := by
  have h : ('0' ≤ c ∧ c ≤ '9') ↔ c.isDigit = true := by
    simp only [Char.isDigit, Char.le_def, Bool.and_eq_true, decide_eq_true_eq]
  simp only [digit?, h]

theorem digitsFrom_eq_some_iff {s : List Char} {k n : Nat} :
    digitsFrom k s = some n ↔ (∀ c ∈ s, c.isDigit = true) ∧ Nat.ofDigitChars 10 s k = n := by
  induction s generalizing k with
  | nil => simp [digitsFrom]
  | cons c s ih =>
    rw [digitsFrom, digit?_eq_ite, Nat.ofDigitChars_cons]
    by_cases hc : c.isDigit = true
    · simp [hc, ih]
    · simp [hc]

theorem digits?_eq_some_iff {s : List Char} {n : Nat} : digits? s = some n ↔ Digits s n := by
  cases s with
  | nil =>
    rw [digits?_nil]
    constructor
    · intro h
      contradiction
    · intro h
      exact absurd rfl h.ne_nil
  | cons c s =>
    rw [digits?_cons, digitsFrom_eq_some_iff]
    constructor
    · intro h
      obtain ⟨hd, hn⟩ := h
      exact ⟨List.cons_ne_nil c s, hd, hn⟩
    · intro h
      exact ⟨h.isDigit, h.value⟩

theorem Digits.head_ne_sign {c : Char} {s : List Char} {n : Nat} (h : Digits (c :: s) n) :
    c ≠ '+' ∧ c ≠ '-' := by
  have hc : c.isDigit = true := h.isDigit c (List.mem_cons_self ..)
  have hp : '+'.isDigit = false := by decide
  have hm : '-'.isDigit = false := by decide
  exact ⟨fun h => by simp [h, hp] at hc, fun h => by simp [h, hm] at hc⟩

theorem Digits.unique {s : List Char} {n k : Nat} (h : Digits s n) (h' : Digits s k) : n = k :=
  h.value.symm.trans h'.value

theorem signedDigits_plus {t : List Char} {m : Int} :
    SignedDigits ('+' :: t) m ↔ ∃ n : Nat, Digits t n ∧ m = n := by
  constructor
  · intro h
    obtain ⟨u, n, hu, ⟨rfl | h, hm⟩ | ⟨h, hm⟩⟩ := h
    · exact absurd rfl hu.head_ne_sign.1
    · cases h
      exact ⟨n, hu, hm⟩
    · cases h
  · intro h
    obtain ⟨n, hn, hm⟩ := h
    exact ⟨t, n, hn, Or.inl ⟨Or.inr rfl, hm⟩⟩

theorem signedDigits_minus {t : List Char} {m : Int} :
    SignedDigits ('-' :: t) m ↔ ∃ n : Nat, Digits t n ∧ m = -n := by
  constructor
  · intro h
    obtain ⟨u, n, hu, ⟨rfl | h, hm⟩ | ⟨h, hm⟩⟩ := h
    · exact absurd rfl hu.head_ne_sign.2
    · cases h
    · cases h
      exact ⟨n, hu, hm⟩
  · intro h
    obtain ⟨n, hn, hm⟩ := h
    exact ⟨t, n, hn, Or.inr ⟨rfl, hm⟩⟩

theorem signedDigits_of_no_sign {s : List Char} {m : Int} (hp : ∀ t, s ≠ '+' :: t)
    (hn : ∀ t, s ≠ '-' :: t) : SignedDigits s m ↔ ∃ n : Nat, Digits s n ∧ m = n := by
  constructor
  · intro h
    obtain ⟨u, n, hu, ⟨rfl | h, hm⟩ | ⟨h, hm⟩⟩ := h
    · exact ⟨n, hu, hm⟩
    · exact absurd h (hp u)
    · exact absurd h (hn u)
  · intro h
    obtain ⟨n, hs, hm⟩ := h
    exact ⟨s, n, hs, Or.inl ⟨Or.inl rfl, hm⟩⟩

theorem lengthInRange_eq_some_iff {k n : Nat} : lengthInRange k = some n ↔ k = n ∧ n < 2 ^ 64 := by
  have hl : lengthLimit = 2 ^ 64 := rfl
  rw [lengthInRange, hl, Option.ite_none_right_eq_some, Option.some.injEq]
  omega

theorem integerInRange_eq_some_iff {k m : Int} :
    integerInRange k = some m ↔ k = m ∧ -2 ^ 127 ≤ m ∧ m < 2 ^ 127 := by
  have hl : (integerLimit : Int) = 2 ^ 127 := by decide
  rw [integerInRange, hl, Option.ite_none_right_eq_some, Option.some.injEq]
  omega

theorem bind_lengthInRange_eq_some_iff {t : List Char} {n : Nat} :
    (digits? t).bind lengthInRange = some n ↔ n < 2 ^ 64 ∧ Digits t n := by
  simp only [Option.bind_eq_some_iff, digits?_eq_some_iff, lengthInRange_eq_some_iff]
  constructor
  · intro h
    obtain ⟨k, hk, rfl, hn⟩ := h
    exact ⟨hn, hk⟩
  · intro h
    obtain ⟨hn, hk⟩ := h
    exact ⟨n, hk, rfl, hn⟩

/-- The readers of the three forms of integers differ in what they make of the digits. -/
theorem bind_integerInRange_eq_some_iff {f : Nat → Int} {t : List Char} {m : Int} :
    ((digits? t).bind fun n => integerInRange (f n)) = some m ↔
      -2 ^ 127 ≤ m ∧ m < 2 ^ 127 ∧ ∃ n, Digits t n ∧ m = f n := by
  simp only [Option.bind_eq_some_iff, digits?_eq_some_iff, integerInRange_eq_some_iff]
  constructor
  · intro h
    obtain ⟨n, hn, rfl, hl, hu⟩ := h
    exact ⟨hl, hu, n, hn, rfl⟩
  · intro h
    obtain ⟨hl, hu, n, hn, rfl⟩ := h
    exact ⟨n, hn, rfl, hl, hu⟩

theorem length?_eq_some_iff {s : List Char} {n : Nat} :
    length? s = some n ↔ LengthNumeral s n := by
  unfold length? LengthNumeral
  split
  · rename_i t
    rw [bind_lengthInRange_eq_some_iff]
    refine and_congr_right fun _ => ?_
    constructor
    · intro ht
      exact ⟨t, ht, Or.inr rfl⟩
    · intro h
      obtain ⟨u, hu, rfl | h⟩ := h
      · exact absurd rfl hu.head_ne_sign.1
      · cases h
        exact hu
  · rename_i hs
    rw [bind_lengthInRange_eq_some_iff]
    refine and_congr_right fun _ => ?_
    constructor
    · intro ht
      exact ⟨s, ht, Or.inl rfl⟩
    · intro h
      obtain ⟨u, hu, rfl | h⟩ := h
      · exact hu
      · exact absurd h (hs u)

theorem integer?_eq_some_iff {s : List Char} {m : Int} :
    integer? s = some m ↔ IntegerNumeral s m := by
  rw [integerNumeral_iff]
  unfold integer?
  split
  · rw [bind_integerInRange_eq_some_iff, signedDigits_plus]
  · rw [bind_integerInRange_eq_some_iff, signedDigits_minus]
  · rename_i hp hn
    rw [bind_integerInRange_eq_some_iff, signedDigits_of_no_sign hp hn]

theorem SignedDigits.unique {s : List Char} {m k : Int} (h : SignedDigits s m)
    (h' : SignedDigits s k) : m = k := by
  have hread : ∃ (f : Nat → Int) (t : List Char),
      ∀ j, SignedDigits s j ↔ ∃ n, Digits t n ∧ j = f n := by
    by_cases hp : ∃ t, s = '+' :: t
    · obtain ⟨t, rfl⟩ := hp
      exact ⟨fun n => n, t, fun _ => signedDigits_plus⟩
    · by_cases hn : ∃ t, s = '-' :: t
      · obtain ⟨t, rfl⟩ := hn
        exact ⟨fun n => -n, t, fun _ => signedDigits_minus⟩
      · push Not at hp hn
        exact ⟨fun n => n, s, fun _ => signedDigits_of_no_sign hp hn⟩
  obtain ⟨f, t, hf⟩ := hread
  obtain ⟨n, hn, rfl⟩ := (hf m).mp h
  obtain ⟨j, hj, rfl⟩ := (hf k).mp h'
  rw [hn.unique hj]

theorem IntegerNumeral.unique {s : List Char} {m k : Int} (h : IntegerNumeral s m)
    (h' : IntegerNumeral s k) : m = k :=
  (integerNumeral_iff.mp h).2.2.unique (integerNumeral_iff.mp h').2.2

theorem digits_toDigits (n : Nat) : Digits (Nat.toDigits 10 n) n where
  ne_nil := Nat.toDigits_ne_nil
  isDigit _ hc := Nat.isDigit_of_mem_toDigits (by decide) (by decide) hc
  value := Nat.ofDigitChars_toDigits (by decide) (by decide)

theorem signedDigits_toString (m : Int) : SignedDigits (toString m).toList m := by
  rw [Int.toString_eq_repr, Int.repr_eq_if]
  split
  · rename_i h
    have hm : m = m.toNat := by omega
    rw [Nat.toList_repr]
    exact ⟨_, _, digits_toDigits m.toNat, Or.inl ⟨Or.inl rfl, hm⟩⟩
  · rename_i h
    have hm : m = -(-m).toNat := by omega
    rw [String.toList_append, Nat.toList_repr]
    exact ⟨_, _, digits_toDigits (-m).toNat, Or.inr ⟨rfl, hm⟩⟩

end FieldRules.Number
