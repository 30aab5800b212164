import FieldRules.Proofs.Reach
import FieldRules.Proofs.Reference
import FieldRules.Proofs.Satisfaction

/-!
Acceptance under the built-in rules. Main statement: a value is accepted exactly if it is absent, or
a record in which every visible field of every reached record has a tag of the grammar and every
value judged by the rules of its field satisfies all of them.
-/

set_option autoImplicit false

namespace FieldRules

/-- A field whose tag is of the grammar and asks for nothing that the value does not satisfy. -/
def Field.Acceptable (engine : Engine) (f : Field Value) : Prop :=
  ∃ rules, Tag.Spells f.tag rules ∧
    (rules ≠ [] → f.value = .nil ∨ (∃ t fs, f.value = .record t fs) ∨
      ∀ w ∈ f.value.judged (rules.any Rule.isNested),
        w.kind.isScalar = true ∧ ∀ r ∈ rules, Satisfies engine w r)

namespace Registry

theorem forall_meets_eq_pass_iff (g : Registry) {f : Field Value} :
    (∀ o, g.Meets f o → o = .pass) ↔
      (f.visible = true → ∃ rules, Tag.Spells f.tag rules ∧
        ∀ w ∈ f.value.judged (rules.any Rule.isNested), ∀ r ∈ rules, g.verdict w r = .pass) := by
  constructor
  · intro h hv
    cases ht : Tag.parse f.tag with
    | error e => exact absurd (h _ (.malformed hv ht)) (by simp)
    | ok rules =>
      have hs := Tag.parse_eq_ok_iff.mp ht
      refine ⟨rules, hs, fun w hw r hr => ?_⟩
      exact Verdict.stamp_eq_pass_iff.mp (h _ (.rule hv hs hw hr))
  · intro h o ho
    cases ho with
    | @malformed e hv ht =>
      obtain ⟨rules, hs, -⟩ := h hv
      rw [Tag.parse_eq_ok_iff.mpr hs] at ht
      contradiction
    | @rule rules w r hv ht hw hr =>
      obtain ⟨rules', hs, hp⟩ := h hv
      cases hs.unique ht
      exact Verdict.stamp_eq_pass_iff.mpr (hp w hw r hr)

theorem outcome_record_eq_ok_iff (g : Registry) {typeName : String} {fields : List (Field Value)} :
    (g.validate (.record typeName fields)).outcome = .ok () ↔
      ∀ t fs, Reached (.record typeName fields) (.record t fs) →
        ∀ f ∈ fs, ∀ o, g.Meets f o → o = .pass := by
  rw [outcome_validate_record, Outcome.ofVerdicts_eq_ok_iff]
  simp only [mem_verdicts_iff]
  constructor
  · intro h t fs hr f hf o ho
    exact h o ⟨t, fs, hr, f, hf, ho⟩
  · intro h o hm
    obtain ⟨t, fs, hr, f, hf, ho⟩ := hm
    exact h t fs hr f hf o ho

end Registry

theorem Field.acceptable_iff {engine : Engine} {f : Field Value} :
    f.Acceptable engine ↔ ∃ rules, Tag.Spells f.tag rules ∧
      ∀ w ∈ f.value.judged (rules.any Rule.isNested), ∀ r ∈ rules,
        (Registry.standard engine).verdict w r = .pass := by
  simp only [Registry.verdict_standard_eq_pass_iff]
  refine exists_congr fun rules => and_congr_right fun _ => ?_
  constructor
  · intro h w hw r hr
    rcases h (List.ne_nil_of_mem hr) with hv | ⟨t, fs, hv⟩ | h
    · simp [hv, Value.judged] at hw
    · simp [hv, Value.judged] at hw
    · exact (h w hw).2 r hr
  · intro h hr
    obtain ⟨r, hr⟩ := List.exists_mem_of_ne_nil rules hr
    exact Or.inr (Or.inr fun w hw => ⟨(h w hw r hr).isScalar, h w hw⟩)

/-- Acceptance is exact: nothing is skipped and nothing else is asked. -/
theorem validate_standard_eq_ok_iff (engine : Engine) (v : Value) :
    ((Registry.standard engine).validate v).outcome = .ok () ↔
      v = .nil ∨ (∃ typeName fields, v = .record typeName fields) ∧
        ∀ t fs, Reached v (.record t fs) → ∀ f ∈ fs, f.visible = true → f.Acceptable engine := by
  cases v with
  | record typeName fields =>
    have hm : ∀ f : Field Value, (∀ o, (Registry.standard engine).Meets f o → o = .pass) ↔
        (f.visible = true → f.Acceptable engine) := by
      intro f
      rw [Registry.forall_meets_eq_pass_iff, Field.acceptable_iff]
    rw [Registry.outcome_record_eq_ok_iff]
    simp only [hm]
    constructor
    · intro h
      exact Or.inr ⟨⟨typeName, fields, rfl⟩, h⟩
    · intro h
      obtain h | ⟨-, h⟩ := h
      · contradiction
      · exact h
  | nil => simp [Registry.validate]
  | sealed => simp [Registry.validate]
  | string s => simp [Registry.validate]
  | int n => simp [Registry.validate]
  | float x => simp [Registry.validate]
  | bool b => simp [Registry.validate]
  | sequence items => simp [Registry.validate]

example : ((Registry.standard .words).validate (.record "Page"
    [.shown "code" "len:5|regexp:a1" (.string "ba1ab"), .shown "size" "min:x" .nil])).outcome =
      .ok () := by
  decide +kernel

end FieldRules
