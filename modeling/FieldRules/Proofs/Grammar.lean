import Mathlib.Data.List.Forall2
import FieldRules.Proofs.Pieces
import FieldRules.Tag

/-!
The grammar of tags as a relation between texts and lists of rules. Main statement: the reader of
tags accepts exactly the texts of the grammar, each with the one list of rules that it spells.
-/

set_option autoImplicit false

namespace FieldRules

/-- The written forms of a rule: the bare word for nested records, or a name and a condition with
the only colon between them. -/
inductive Rule.Written : List Char → Rule → Prop where
  | nested : Written Rule.nestedName.toList Rule.nested
  | pair {name condition : List Char} (hn : ':' ∉ name) (hc : ':' ∉ condition) :
      Written (name ++ ':' :: condition) ⟨String.ofList name, String.ofList condition⟩

/-- A tag spells no rules if it is blank, and otherwise the rules that are written in it with `|`
between each two. -/
inductive Tag.Spells (tag : String) : List Rule → Prop where
  | blank (h : Text.trim tag.toList = []) : Spells tag []
  | rules {ps : List (List Char)} {rs : List Rule} (hp : ps ≠ [])
      (h : Text.trim tag.toList = Text.joined '|' ps) (hs : ∀ p ∈ ps, '|' ∉ p)
      (hw : List.Forall₂ Rule.Written ps rs) : Spells tag rs

namespace Rule

theorem Written.ne_nil {p : List Char} {r : Rule} (h : Written p r) : p ≠ [] := by
  cases h with
  | nested => decide
  | pair hn hc => simp

theorem Written.eq_nested {r : Rule} (h : Written nestedName.toList r) : r = Rule.nested := by
  generalize hp : nestedName.toList = p at h
  cases h with
  | nested => rfl
  | @pair name condition hn hc =>
    have hm : ':' ∈ nestedName.toList := by
      rw [hp]
      simp
    exact absurd hm (by decide)

theorem parse_eq_ok_iff (tag : List Char) {p : List Char} {r : Rule} :
    parse tag p = .ok r ↔ Written p r := by
  unfold parse
  by_cases he : p = []
  · rw [if_pos he]
    constructor
    · intro h
      contradiction
    · intro h
      exact absurd he h.ne_nil
  rw [if_neg he]
  by_cases hp : p = nestedName.toList
  · rw [if_pos hp, Except.ok.injEq, hp]
    constructor
    · intro h
      subst h
      exact .nested
    · intro h
      exact h.eq_nested.symm
  rw [if_neg hp]
  constructor
  · intro h
    split at h
    · rename_i name condition hq
      obtain ⟨-, hj, hs⟩ := Text.pieces_eq_iff.mp hq
      cases h
      rw [← hj]
      exact .pair (hs name (by simp)) (hs condition (by simp))
    · contradiction
  · intro h
    cases h with
    | nested => exact absurd rfl hp
    | @pair name condition hn hc =>
      have hq : Text.pieces ':' (name ++ ':' :: condition) = [name, condition] :=
        Text.pieces_eq_iff.mpr ⟨by simp, rfl, by simp [hn, hc]⟩
      rw [hq]

theorem parse_eq_error {tag p : List Char} {f : Fault} (h : parse tag p = .error f) :
    f = .emptyRule (String.ofList tag) ∨ f = .malformedRule (String.ofList p) := by
  unfold parse at h
  split at h
  · cases h
    exact Or.inl rfl
  · split at h
    · contradiction
    · split at h
      · contradiction
      · cases h
        exact Or.inr rfl

end Rule

namespace Tag

theorem parsePieces_eq_ok_iff {tag : List Char} {ps : List (List Char)} {rs : List Rule} :
    parsePieces tag ps = .ok rs ↔ List.Forall₂ Rule.Written ps rs := by
  induction ps generalizing rs with
  | nil =>
    rw [parsePieces, Except.ok.injEq, List.forall₂_nil_left_iff]
    exact eq_comm
  | cons p ps ih =>
    rw [parsePieces, List.forall₂_cons_left_iff]
    simp only [← ih, ← Rule.parse_eq_ok_iff tag]
    cases Rule.parse tag p with
    | error f => simp
    | ok r => cases parsePieces tag ps <;> simp [Except.map, eq_comm]

theorem parsePieces_eq_error {tag : List Char} {ps : List (List Char)} {f : Fault}
    (h : parsePieces tag ps = .error f) :
    f = .emptyRule (String.ofList tag) ∨ ∃ p ∈ ps, f = .malformedRule (String.ofList p) := by
  induction ps with
  | nil => contradiction
  | cons p ps ih =>
    rw [parsePieces] at h
    cases hr : Rule.parse tag p with
    | error e =>
      simp only [hr, Except.error.injEq] at h
      subst h
      exact (Rule.parse_eq_error hr).imp_right fun hp => ⟨p, List.mem_cons_self .., hp⟩
    | ok r =>
      cases hs : parsePieces tag ps with
      | ok rs => simp [hr, hs, Except.map] at h
      | error e =>
        simp only [hr, hs, Except.map, Except.error.injEq] at h
        subst h
        refine (ih hs).imp_right ?_
        intro hp
        obtain ⟨q, hq, he⟩ := hp
        exact ⟨q, List.mem_cons_of_mem p hq, he⟩

theorem parse_eq_error {tag : String} {f : Fault} (h : parse tag = .error f) :
    (∃ t, f = .emptyRule t) ∨ ∃ p, f = .malformedRule p := by
  unfold parse parseTrimmed at h
  split at h
  · contradiction
  · exact (parsePieces_eq_error h).imp (fun hf => ⟨_, hf⟩) fun ⟨p, _, hf⟩ => ⟨_, hf⟩

theorem parse_eq_ok_iff {tag : String} {rs : List Rule} :
    parse tag = .ok rs ↔ Spells tag rs := by
  unfold parse parseTrimmed
  by_cases ht : Text.trim tag.toList = []
  · rw [if_pos ht, Except.ok.injEq]
    constructor
    · intro h
      subst h
      exact .blank ht
    · intro h
      cases h with
      | blank => rfl
      | @rules ps _ hp h hs hw =>
        -- the only piece of an empty text is empty, which is no rule
        have hq : Text.pieces '|' [] = ps := Text.pieces_eq_iff.mpr ⟨hp, h ▸ ht, hs⟩
        rw [← hq, Text.pieces_nil, List.forall₂_cons_left_iff] at hw
        obtain ⟨r, _, hr, -, -⟩ := hw
        exact absurd rfl hr.ne_nil
  · rw [if_neg ht, parsePieces_eq_ok_iff]
    constructor
    · intro hw
      obtain ⟨hp, hj, hs⟩ := Text.pieces_eq_iff.mp (rfl : Text.pieces '|' _ = _)
      exact .rules hp hj.symm hs hw
    · intro h
      cases h with
      | blank h => exact absurd h ht
      | rules hp h hs hw => rwa [Text.pieces_eq_iff.mpr ⟨hp, h.symm, hs⟩]

theorem Spells.unique {tag : String} {rs ss : List Rule} (hr : Spells tag rs)
    (hs : Spells tag ss) : rs = ss := by
  have h := parse_eq_ok_iff.mpr hr
  rw [parse_eq_ok_iff.mpr hs] at h
  exact (Except.ok.inj h).symm

end Tag

end FieldRules
