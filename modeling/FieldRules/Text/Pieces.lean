/-!
The pieces of a text between separators. There is always one piece more than there are separators,
so empty pieces count, and joining the pieces gives the text back.
-/

set_option autoImplicit false

namespace FieldRules.Text

def pieces (sep : Char) : List Char → List (List Char)
  | [] => [[]]
  | c :: s =>
    if c = sep then [] :: pieces sep s
    else match pieces sep s with
      | [] => [[c]]
      | p :: ps => (c :: p) :: ps

def joined (sep : Char) : List (List Char) → List Char
  | [] => []
  | [p] => p
  | p :: q :: ps => p ++ sep :: joined sep (q :: ps)

theorem pieces_ne_nil (sep : Char) (s : List Char) : pieces sep s ≠ [] := by
  cases s with
  | nil => simp [pieces]
  | cons c s =>
    simp only [pieces]
    split
    · simp
    · split <;> simp

@[simp] theorem pieces_nil (sep : Char) : pieces sep [] = [[]] := rfl

theorem pieces_cons_self (sep : Char) (s : List Char) :
    pieces sep (sep :: s) = [] :: pieces sep s := by
  simp [pieces]

theorem joined_cons (sep : Char) (p : List Char) {ps : List (List Char)} (h : ps ≠ []) :
    joined sep (p :: ps) = p ++ sep :: joined sep ps := by
  cases ps with
  | nil => contradiction
  | cons q ps => rfl

theorem joined_pieces (sep : Char) (s : List Char) : joined sep (pieces sep s) = s := by
  induction s with
  | nil => rfl
  | cons c s ih =>
    simp only [pieces]
    split
    · rename_i h
      rw [joined_cons sep [] (pieces_ne_nil sep s), ih, h]
      rfl
    · split
      · rename_i h
        exact absurd h (pieces_ne_nil sep s)
      · rename_i p ps h
        rw [h] at ih
        cases ps with
        | nil => simp only [joined] at ih ⊢; rw [ih]
        | cons q ps =>
          simp only [joined, List.cons_append] at ih ⊢
          rw [ih]

end FieldRules.Text
