import FieldRules.Proofs.Grammar
import FieldRules.Proofs.Trim

/-!
What reading a tag comes to, piece by piece. Main statement: a tag whose pieces are all good has the
rules that they spell, in order and as written, and any other tag is refused for its first bad
piece, whatever comes behind it.
-/

set_option autoImplicit false

namespace FieldRules

namespace Rule

/-- A piece is good if it is the bare word or has exactly one colon. -/
def Good (p : List Char) : Prop := p = nestedName.toList ∨ p.count ':' = 1

instance (p : List Char) : Decidable (Good p) := inferInstanceAs (Decidable (_ ∨ _))

/-- Neither separator stands in the name or in the condition. -/
def Plain (r : Rule) : Prop := ∀ c ∈ r.name.toList ++ r.condition.toList, c ≠ ':' ∧ c ≠ '|'

theorem plain_nested : nested.Plain := by
  have h : nested.name.toList ++ nested.condition.toList = "nested".toList := by rfl
  rw [Plain, h]
  simp

theorem Written.good {p : List Char} {r : Rule} (h : Written p r) : Good p := by
  cases h with
  | nested => exact Or.inl rfl
  | @pair name condition hn hc =>
    have h₁ := List.count_eq_zero.mpr hn
    have h₂ := List.count_eq_zero.mpr hc
    right
    rw [List.count_append, List.count_cons_self]
    omega

theorem Good.written {p : List Char} (h : Good p) : ∃ r, Written p r := by
  rcases h with rfl | h
  · exact ⟨nested, .nested⟩
  · have hm : ':' ∈ p := List.count_pos_iff.mp (by omega)
    obtain ⟨name, condition, rfl, hn⟩ := List.eq_append_cons_of_mem hm
    have h₁ := List.count_eq_zero.mpr hn
    rw [List.count_append, List.count_cons_self] at h
    have hc : ':' ∉ condition := List.count_eq_zero.mp (by omega)
    exact ⟨_, .pair hn hc⟩

theorem Written.isNested_iff {p : List Char} {r : Rule} (h : Written p r) :
    r.isNested = true ↔ p = nestedName.toList ∨ nestedName.toList ++ [':'] <+: p := by
  rw [isNested, beq_iff_eq]
  cases h with
  | nested => simp [Rule.nested]
  | @pair name condition hn hc =>
    have hp : name ++ ':' :: condition ≠ nestedName.toList := by
      intro h
      have hm : ':' ∈ nestedName.toList := by simp [← h]
      exact absurd hm (by decide)
    constructor
    · intro h
      rw [← h, String.toList_ofList]
      exact Or.inr ⟨condition, by simp⟩
    · rintro (h | ⟨rest, h⟩)
      · exact absurd h hp
      · rw [List.append_assoc] at h
        obtain ⟨hname, -, -⟩ := (List.append_cons_inj_of_notMem hn hc).mp h.symm
        rw [hname, String.ofList_toList]

theorem Written.plain {p : List Char} {r : Rule} (h : Written p r) (hp : '|' ∉ p) : r.Plain := by
  cases h with
  | nested => exact plain_nested
  | @pair name condition hn hc =>
    intro c hm
    simp only [String.toList_ofList] at hm
    have hmem : c ∈ name ++ ':' :: condition := by
      simp only [List.mem_append, List.mem_cons] at hm ⊢
      tauto
    constructor
    · rintro rfl
      exact (List.mem_append.mp hm).elim hn hc
    · rintro rfl
      exact hp hmem

theorem any_isNested_iff {ps : List (List Char)} {rs : List Rule}
    (h : List.Forall₂ Written ps rs) :
    rs.any isNested = true ↔
      ∃ p ∈ ps, p = nestedName.toList ∨ nestedName.toList ++ [':'] <+: p := by
  induction h with
  | nil => simp
  | cons hw _ ih => simp only [List.any_cons, Bool.or_eq_true, hw.isNested_iff, ih,
      List.exists_mem_cons_iff]

theorem plain_of_written {ps : List (List Char)} {rs : List Rule}
    (h : List.Forall₂ Written ps rs) (hs : ∀ p ∈ ps, '|' ∉ p) : ∀ r ∈ rs, r.Plain := by
  induction h with
  | nil => simp
  | cons hw _ ih =>
    simp only [List.forall_mem_cons] at hs ⊢
    exact ⟨hw.plain hs.1, ih hs.2⟩

end Rule

namespace Tag

def trimmed (tag : String) : List Char := Text.trim tag.toList

def segments (tag : String) : List (List Char) := Text.pieces '|' (trimmed tag)

theorem segments_ne_nil (tag : String) : segments tag ≠ [] := Text.pieces_ne_nil '|' (trimmed tag)

theorem joined_segments (tag : String) : Text.joined '|' (segments tag) = trimmed tag :=
  Text.joined_pieces '|' (trimmed tag)

theorem not_mem_of_mem_segments {tag : String} {p : List Char} (h : p ∈ segments tag) : '|' ∉ p :=
  Text.not_mem_of_mem_pieces h

/-- The fault of a tag for a piece of it that is not good. -/
def blame (tag piece : List Char) : Fault :=
  if piece = [] then .emptyRule (String.ofList tag) else .malformedRule (String.ofList piece)

theorem parse_of_not_good (tag : List Char) {p : List Char} (h : ¬ Rule.Good p) :
    Rule.parse tag p = .error (blame tag p) := by
  unfold Rule.parse blame
  by_cases he : p = []
  · rw [if_pos he, if_pos he]
  · have hn : p ≠ Rule.nestedName.toList := fun hp => h (Or.inl hp)
    rw [if_neg he, if_neg hn, if_neg he]
    split
    · rename_i name condition hq
      obtain ⟨-, hj, hs⟩ := Text.pieces_eq_iff.mp hq
      have hw := Rule.Written.pair (hs name (by simp)) (hs condition (by simp))
      exact absurd (hj ▸ hw.good) h
    · rfl

theorem parsePieces_of_good {tag : List Char} {ps : List (List Char)}
    (h : ∀ p ∈ ps, Rule.Good p) : ∃ rs, parsePieces tag ps = .ok rs := by
  simp only [parsePieces_eq_ok_iff]
  induction ps with
  | nil => exact ⟨[], .nil⟩
  | cons p ps ih =>
    obtain ⟨r, hr⟩ := (h p (List.mem_cons_self ..)).written
    obtain ⟨rs, hrs⟩ := ih fun q hq => h q (List.mem_cons_of_mem p hq)
    exact ⟨r :: rs, .cons hr hrs⟩

theorem parsePieces_of_bad {tag : List Char} {before : List (List Char)} {p : List Char}
    (hb : ∀ q ∈ before, Rule.Good q) (hp : ¬ Rule.Good p) (after : List (List Char)) :
    parsePieces tag (before ++ p :: after) = .error (blame tag p) := by
  induction before with
  | nil => rw [List.nil_append, parsePieces, parse_of_not_good tag hp]
  | cons q before ih =>
    obtain ⟨r, hr⟩ := (hb q (List.mem_cons_self ..)).written
    have hrest := ih fun q' hq => hb q' (List.mem_cons_of_mem q hq)
    rw [List.cons_append, parsePieces, (Rule.parse_eq_ok_iff tag).mpr hr]
    simp only [hrest, Except.map]

theorem exists_first_bad {ps : List (List Char)} (h : ¬ ∀ p ∈ ps, Rule.Good p) :
    ∃ before p after, ps = before ++ p :: after ∧ (∀ q ∈ before, Rule.Good q) ∧
      ¬ Rule.Good p := by
  cases hf : ps.find? fun p => !decide (Rule.Good p) with
  | none =>
    have hall := List.find?_eq_none.mp hf
    exact absurd (by simpa using hall) h
  | some p =>
    obtain ⟨hp, before, after, he, hb⟩ := List.find?_eq_some_iff_append.mp hf
    exact ⟨before, p, after, he, by simpa using hb, by simpa using hp⟩

theorem parse_of_blank {tag : String} (h : trimmed tag = []) : parse tag = .ok [] := if_pos h

theorem parse_of_not_blank {tag : String} (h : trimmed tag ≠ []) :
    parse tag = parsePieces (trimmed tag) (segments tag) := if_neg h

theorem plain_of_parse {tag : String} {rs : List Rule} (h : parse tag = .ok rs) :
    ∀ r ∈ rs, r.Plain := by
  by_cases ht : trimmed tag = []
  · cases (parse_of_blank ht).symm.trans h
    simp
  · rw [parse_of_not_blank ht, parsePieces_eq_ok_iff] at h
    exact Rule.plain_of_written h fun _ hp => not_mem_of_mem_segments hp

theorem any_isNested_of_parse {tag : String} {rs : List Rule} (h : parse tag = .ok rs) :
    rs.any Rule.isNested = true ↔
      ∃ p ∈ segments tag, p = Rule.nestedName.toList ∨ Rule.nestedName.toList ++ [':'] <+: p := by
  by_cases ht : trimmed tag = []
  · cases (parse_of_blank ht).symm.trans h
    rw [segments, ht, Text.pieces_nil]
    decide
  · rw [parse_of_not_blank ht, parsePieces_eq_ok_iff] at h
    exact Rule.any_isNested_iff h

/-- Reading a tag is exact: it finds the rules of all pieces, or refuses the first bad one. -/
theorem parse_pieces (tag : String) :
    (Text.Bare (trimmed tag) ∧ ∃ a b, tag.toList = a ++ trimmed tag ++ b ∧
      (∀ c ∈ a, Text.isBlank c = true) ∧ ∀ c ∈ b, Text.isBlank c = true) ∧
    (segments tag ≠ [] ∧ Text.joined '|' (segments tag) = trimmed tag ∧
      ∀ p ∈ segments tag, '|' ∉ p) ∧
    (trimmed tag = [] → parse tag = .ok []) ∧
    (trimmed tag ≠ [] → (∀ p ∈ segments tag, Rule.Good p) →
      ∃ rs, parse tag = .ok rs ∧ List.Forall₂ Rule.Written (segments tag) rs) ∧
    (trimmed tag ≠ [] → (¬ ∀ p ∈ segments tag, Rule.Good p) →
      ∃ before p after, segments tag = before ++ p :: after ∧ (∀ q ∈ before, Rule.Good q) ∧
        ¬ Rule.Good p ∧ parse tag = .error (blame (trimmed tag) p)) ∧
    (∀ rs, parse tag = .ok rs →
      (∀ r ∈ rs, r.Plain) ∧
      ∀ field, ∃ s, RuleSet.ofTag field tag = .ok s ∧ (s.hasNested = true ↔
        ∃ p ∈ segments tag,
          p = Rule.nestedName.toList ∨ Rule.nestedName.toList ++ [':'] <+: p)) := by
  have hs : ∀ p ∈ segments tag, '|' ∉ p := fun _ hp => not_mem_of_mem_segments hp
  refine ⟨Text.trim_eq_iff.mp rfl, ⟨segments_ne_nil tag, joined_segments tag, hs⟩,
    parse_of_blank, ?_, ?_, ?_⟩
  · intro ht hgood
    rw [parse_of_not_blank ht]
    obtain ⟨rs, hrs⟩ := parsePieces_of_good hgood
    exact ⟨rs, hrs, parsePieces_eq_ok_iff.mp hrs⟩
  · intro ht hbad
    obtain ⟨before, p, after, hps, hb, hp⟩ := exists_first_bad hbad
    refine ⟨before, p, after, hps, hb, hp, ?_⟩
    rw [parse_of_not_blank ht, hps]
    exact parsePieces_of_bad hb hp after
  · intro rs h
    refine ⟨plain_of_parse h, ?_⟩
    intro field
    refine ⟨⟨field, rs⟩, ?_, any_isNested_of_parse h⟩
    rw [RuleSet.ofTag, h]
    rfl

example : parse " len:1 |min||a:b:c " = .error (.malformedRule "min") := by rfl

end Tag

end FieldRules
