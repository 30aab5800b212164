import FieldRules.Text.Pieces

/-!
Pieces of a text and joined pieces undo each other: a text has exactly one list of pieces, the one
without separators inside that joins to it.
-/

set_option autoImplicit false

namespace FieldRules.Text

theorem pieces_eq_splitOn (sep : Char) (s : List Char) : pieces sep s = s.splitOn sep := by
  induction s with
  | nil => rw [pieces_nil, List.splitOn_nil]
  | cons c s ih =>
    rw [List.splitOn_cons_eq_if_modifyHead, ← ih, pieces]
    by_cases hc : c = sep
    · simp only [hc, if_true, beq_self_eq_true]
    · simp only [hc, if_false, beq_iff_eq]
      cases hp : pieces sep s with
      | nil => exact absurd hp (pieces_ne_nil sep s)
      | cons p ps => rfl

theorem pieces_append (sep : Char) (s t : List Char) :
    pieces sep (s ++ sep :: t) = pieces sep s ++ pieces sep t := by
  simp only [pieces_eq_splitOn, List.splitOn_append_cons_self]

theorem joined_eq_intercalate (sep : Char) (ps : List (List Char)) :
    joined sep ps = [sep].intercalate ps := by
  induction ps with
  | nil => rfl
  | cons p ps ih =>
    by_cases h : ps = []
    · simp only [h, joined, List.intercalate_singleton]
    · rw [joined_cons sep p h, ih, List.intercalate_cons_of_ne_nil h]
      simp only [List.append_assoc, List.singleton_append]

theorem joined_append {sep : Char} {ps qs : List (List Char)} (hp : ps ≠ []) (hq : qs ≠ []) :
    joined sep (ps ++ qs) = joined sep ps ++ sep :: joined sep qs := by
  induction ps with
  | nil => contradiction
  | cons p ps ih =>
    rw [List.cons_append, joined_cons sep p (List.append_ne_nil_of_right_ne_nil ps hq)]
    by_cases h : ps = []
    · simp only [h, List.nil_append, joined]
    · rw [joined_cons sep p h, ih h, List.append_assoc, List.cons_append]

theorem joined_concat_nil (sep : Char) (ps : List (List Char)) :
    joined sep (ps ++ [[]]) = ps.flatMap (· ++ [sep]) := by
  induction ps with
  | nil => rfl
  | cons p ps ih =>
    rw [List.cons_append, joined_cons sep p (List.append_ne_nil_of_right_ne_nil ps (by simp)), ih,
      List.flatMap_cons, List.append_assoc, List.singleton_append]

theorem pieces_joined {sep : Char} {ps : List (List Char)} (h : ps ≠ [])
    (hs : ∀ p ∈ ps, sep ∉ p) : pieces sep (joined sep ps) = ps := by
  rw [pieces_eq_splitOn, joined_eq_intercalate]
  exact List.splitOn_intercalate sep hs h

theorem not_mem_of_mem_pieces {sep : Char} {s p : List Char} (hp : p ∈ pieces sep s) :
    sep ∉ p := by
  induction s generalizing p with
  | nil =>
    rw [pieces_nil, List.mem_singleton] at hp
    simp only [hp, List.not_mem_nil, not_false_iff]
  | cons c s ih =>
    by_cases hc : c = sep
    · rw [hc, pieces_cons_self, List.mem_cons] at hp
      rcases hp with rfl | hp
      · exact List.not_mem_nil
      · exact ih hp
    · simp only [pieces, hc, if_false] at hp
      cases hq : pieces sep s with
      | nil => exact absurd hq (pieces_ne_nil sep s)
      | cons q qs =>
        simp only [hq, List.mem_cons] at hp ih
        rcases hp with rfl | hp
        · have hs := ih (Or.inl rfl)
          simp only [List.mem_cons, not_or]
          exact ⟨Ne.symm hc, hs⟩
        · exact ih (Or.inr hp)

theorem pieces_eq_iff {sep : Char} {s : List Char} {ps : List (List Char)} :
    pieces sep s = ps ↔ ps ≠ [] ∧ joined sep ps = s ∧ ∀ p ∈ ps, sep ∉ p := by
  constructor
  · intro h
    subst h
    exact ⟨pieces_ne_nil sep s, joined_pieces sep s, fun p hp => not_mem_of_mem_pieces hp⟩
  · intro h
    obtain ⟨h, rfl, hs⟩ := h
    exact pieces_joined h hs

theorem nil_mem_pieces_iff {sep : Char} {s : List Char} (h : s ≠ []) :
    [] ∈ pieces sep s ↔ [sep] <+: s ∨ [sep] <:+ s ∨ [sep, sep] <:+: s := by
  constructor
  · intro hm
    obtain ⟨ps, qs, hs⟩ := List.append_of_mem hm
    have hj := joined_pieces sep s
    rw [hs] at hj
    by_cases hp : ps = []
    · by_cases hq : qs = []
      · simp only [hp, hq, List.nil_append, joined] at hj
        exact absurd hj.symm h
      · rw [hp, List.nil_append, joined_cons sep [] hq] at hj
        exact Or.inl ⟨joined sep qs, hj⟩
    · rw [joined_append hp (List.cons_ne_nil _ _)] at hj
      by_cases hq : qs = []
      · rw [hq] at hj
        exact Or.inr (Or.inl ⟨joined sep ps, hj⟩)
      · rw [joined_cons sep [] hq] at hj
        refine Or.inr (Or.inr ⟨joined sep ps, joined sep qs, ?_⟩)
        rw [← hj, List.append_assoc]
        rfl
  · rintro (⟨t, rfl⟩ | ⟨t, rfl⟩ | ⟨t, u, rfl⟩)
    · rw [List.singleton_append, pieces_cons_self]
      exact List.mem_cons_self ..
    · rw [pieces_append, pieces_nil]
      exact List.mem_append_right _ (List.mem_cons_self ..)
    · rw [List.append_assoc, List.cons_append, pieces_append]
      exact List.mem_append_right _ (by simp [pieces_cons_self])

end FieldRules.Text
