import Mathlib.Data.List.Basic
import FieldRules.Text.Blank

/-!
Trimming. A trimmed text is what is left of a text when blanks are taken from both ends until none
stands there, and there is only one such text.
-/

set_option autoImplicit false

namespace FieldRules.Text

def Bare (s : List Char) : Prop :=
  (∀ c ∈ s.head?, isBlank c = false) ∧ ∀ c ∈ s.getLast?, isBlank c = false

theorem Bare.append_cons {s t : List Char} (hs : Bare s) (ht : Bare t) (hs₀ : s ≠ [])
    (ht₀ : t ≠ []) (c : Char) : Bare (s ++ c :: t) := by
  constructor
  · rw [List.head?_append_of_ne_nil s hs₀]
    exact hs.1
  · rw [List.getLast?_append_cons, List.getLast?_cons_of_ne_nil ht₀]
    exact ht.2

theorem trimStart_eq_iff {s t : List Char} :
    trimStart s = t ↔
      (∀ c ∈ t.head?, isBlank c = false) ∧ ∃ a, s = a ++ t ∧ ∀ c ∈ a, isBlank c = true := by
  constructor
  · intro h
    subst h
    refine ⟨?_, s.takeWhile isBlank, List.takeWhile_append_dropWhile.symm, ?_⟩
    · intro c hc
      have h := List.head?_dropWhile_not isBlank s
      rw [trimStart] at hc
      rw [hc] at h
      exact h
    · intro c hc
      exact List.all_eq_true.mp List.all_takeWhile c hc
  · rintro ⟨ht, a, rfl, ha⟩
    rw [trimStart, List.dropWhile_append_of_pos ha]
    cases t with
    | nil => rfl
    | cons c t =>
      have hc : isBlank c = false := ht c rfl
      rw [List.dropWhile_cons_of_neg (by simp [hc])]

theorem trimEnd_eq_reverse (s : List Char) : trimEnd s = (trimStart s.reverse).reverse := rfl

theorem trimEnd_eq_iff {s t : List Char} :
    trimEnd s = t ↔
      (∀ c ∈ t.getLast?, isBlank c = false) ∧ ∃ b, s = t ++ b ∧ ∀ c ∈ b, isBlank c = true := by
  rw [trimEnd_eq_reverse, List.reverse_eq_iff, trimStart_eq_iff, List.head?_reverse]
  refine and_congr_right fun _ => ?_
  constructor
  · rintro ⟨a, ha, hb⟩
    refine ⟨a.reverse, ?_, by simpa using hb⟩
    simpa using congrArg List.reverse ha
  · rintro ⟨b, rfl, hb⟩
    exact ⟨b.reverse, List.reverse_append, by simpa using hb⟩

/-- Trimming leaves the middle that is bare, with nothing but blanks before it and behind it. -/
theorem trim_eq_iff {s t : List Char} :
    trim s = t ↔
      Bare t ∧ ∃ a b, s = a ++ t ++ b ∧ (∀ c ∈ a, isBlank c = true) ∧
        ∀ c ∈ b, isBlank c = true := by
  constructor
  · intro h
    obtain ⟨hu, a, hs, ha⟩ := trimStart_eq_iff.mp (rfl : trimStart s = _)
    obtain ⟨hl, b, ht, hb⟩ := trimEnd_eq_iff.mp h
    refine ⟨⟨?_, hl⟩, a, b, ?_, ha, hb⟩
    · intro c hc
      apply hu c
      rw [ht, List.head?_append, hc]
      rfl
    · rw [List.append_assoc, ← ht, ← hs]
  · rintro ⟨⟨hh, hl⟩, a, b, rfl, ha, hb⟩
    by_cases ht : t = []
    · -- nothing is left, so the blanks behind go with those before
      subst ht
      have he : trimStart (a ++ [] ++ b) = [] := by
        refine trimStart_eq_iff.mpr ⟨by simp, a ++ b, by simp, ?_⟩
        intro c hc
        exact (List.mem_append.mp hc).elim (ha c) (hb c)
      rw [trim, he]
      rfl
    · have hs : trimStart (a ++ t ++ b) = t ++ b := by
        refine trimStart_eq_iff.mpr ⟨?_, a, List.append_assoc a t b, ha⟩
        rw [List.head?_append_of_ne_nil t ht]
        exact hh
      rw [trim, hs]
      exact trimEnd_eq_iff.mpr ⟨hl, b, rfl, hb⟩

theorem trim_of_bare {s : List Char} (h : Bare s) : trim s = s :=
  trim_eq_iff.mpr ⟨h, [], [], by simp, by simp, by simp⟩

theorem bare_trim (s : List Char) : Bare (trim s) := (trim_eq_iff.mp rfl).1

end FieldRules.Text
