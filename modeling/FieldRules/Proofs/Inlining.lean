import FieldRules.Proofs.Reach
import FieldRules.Proofs.Reference

/-!
Nested records in place. Main statement: a field that asks for nested records counts for the outcome
as the fields of those records, put where the field stands. Nothing else of the field is left: not
its name, and none of its other rules.
-/

set_option autoImplicit false

namespace FieldRules

namespace Value

def fields : Value → List (Field Value)
  | record _ fields => fields
  | _ => []

/-- Nothing in the value is left to judge once records are walked. -/
def AllNested (v : Value) : Prop := ∀ w ∈ v.members, w = .nil ∨ ∃ t fs, w = .record t fs

end Value

/-- A visible field whose tag asks for nested records, with whatever other rules around. -/
def Field.Marked (f : Field Value) : Prop :=
  f.visible = true ∧ ∃ rules, Tag.Spells f.tag rules ∧ ∃ r ∈ rules, r.name = Rule.nestedName

def Outcome.rejections : Outcome → List Rejection
  | .error (.rejected p) => p.entries
  | _ => []

theorem Rule.isNested_iff {r : Rule} : r.isNested = true ↔ r.name = nestedName := by
  rw [isNested, beq_iff_eq]

theorem Outcome.rejections_ofVerdicts {vs : List Verdict}
    (h : vs.findSome? Verdict.fault? = none) :
    (ofVerdicts vs).rejections = vs.filterMap Verdict.rejection? := by
  rw [ofVerdicts, h]
  cases vs.filterMap Verdict.rejection? <;> rfl

namespace Registry

variable (g : Registry)

theorem verdicts_traceField (t t' : String) (f : Field Value) :
    (g.traceField t f).verdicts = (g.traceField t' f).verdicts := by
  unfold traceField
  split
  · split
    · rfl
    · split <;> rfl
  · rfl

theorem verdicts_traceFields (t t' : String) (fs : List (Field Value)) :
    (g.traceFields t fs).verdicts = (g.traceFields t' fs).verdicts := by
  simp only [traceFields_eq_flatMap, Trace.verdicts_flatMap, g.verdicts_traceField t t']

theorem verdicts_traceFields_flatMap {α : Type} (t : String) (l : List α)
    (fs : α → List (Field Value)) :
    (g.traceFields t (l.flatMap fs)).verdicts =
      l.flatMap fun a => (g.traceFields t (fs a)).verdicts := by
  simp only [traceFields_eq_flatMap, List.flatMap_assoc, Trace.verdicts_flatMap]

theorem verdicts_traceItem_of_nested {rules : RuleSet} (hn : rules.hasNested = true) (t : String)
    {v : Value} (hv : v = .nil ∨ ∃ s fs, v = .record s fs) :
    (g.traceItem rules v).verdicts = (g.traceFields t v.fields).verdicts := by
  rcases hv with rfl | ⟨s, fs, rfl⟩
  · exact (congrArg Trace.verdicts (g.traceFields_nil t)).symm
  · rw [traceItem, if_pos hn]
    exact g.verdicts_traceFields s t fs

theorem verdicts_traceValue_of_nested {rules : RuleSet} (hn : rules.hasNested = true) (t : String)
    {v : Value} (hv : v.AllNested) :
    (g.traceValue rules v).verdicts =
      v.members.flatMap fun w => (g.traceFields t w.fields).verdicts := by
  cases v with
  | sequence items =>
    rw [traceValue, traceItems_eq_flatMap, Trace.verdicts_flatMap]
    apply List.flatMap_congr
    intro w hw
    exact g.verdicts_traceItem_of_nested hn t (hv w hw)
  | record s fs =>
    have hm : (Value.record s fs).members = [.record s fs] := rfl
    rw [traceValue, if_pos hn, hm, List.flatMap_singleton]
    exact g.verdicts_traceFields s t fs
  | nil =>
    have hm : Value.nil.members = [.nil] := rfl
    rw [hm, List.flatMap_singleton]
    exact (congrArg Trace.verdicts (g.traceFields_nil t)).symm
  | _ =>
    -- a scalar or sealed value is its own member, and is judged
    have h := hv _ (List.mem_singleton_self _)
    simp at h

theorem verdicts_traceField_of_marked {f : Field Value} (hf : f.Marked) (hv : f.value.AllNested)
    (t t' : String) :
    (g.traceField t f).verdicts =
      f.value.members.flatMap fun w => (g.traceFields t' w.fields).verdicts := by
  obtain ⟨hs, rules, ht, r, hr, hn⟩ := hf
  have hp := Tag.parse_eq_ok_iff.mpr ht
  have hm : (RuleSet.mk f.name rules).hasNested = true :=
    List.any_eq_true.mpr ⟨r, hr, Rule.isNested_iff.mpr hn⟩
  rw [g.traceField_of_rules t hs hp (List.ne_nil_of_mem hr)]
  exact g.verdicts_traceValue_of_nested hm t' hv

theorem verdicts_inline {f : Field Value} (hf : f.Marked) (hv : f.value.AllNested)
    (as bs : List (Field Value)) (t : String) :
    (g.traceFields t (as ++ f :: bs)).verdicts =
      (g.traceFields t as).verdicts ++
        (f.value.members.flatMap fun w => (g.traceFields t w.fields).verdicts) ++
        (g.traceFields t bs).verdicts := by
  rw [traceFields_append, traceFields_cons, Trace.verdicts_append, Trace.verdicts_append,
    g.verdicts_traceField_of_marked hf hv t t, List.append_assoc]

theorem outcome_eq_inline {f : Field Value} (hf : f.Marked) (hv : f.value.AllNested)
    (as bs : List (Field Value)) (t t' : String) :
    (g.validate (.record t (as ++ f :: bs))).outcome =
      (g.validate (.record t' (as ++ f.value.members.flatMap Value.fields ++ bs))).outcome := by
  have h : (g.traceFields t (as ++ f :: bs)).verdicts =
      (g.traceFields t (as ++ f.value.members.flatMap Value.fields ++ bs)).verdicts := by
    rw [g.verdicts_inline hf hv, traceFields_append, traceFields_append, Trace.verdicts_append,
      Trace.verdicts_append, verdicts_traceFields_flatMap]
  rw [outcome_validate_record, outcome_validate_record, h, g.verdicts_traceFields t t']

theorem rejections_record {t : String} {fs : List (Field Value)}
    (h : (g.traceFields t fs).verdicts.findSome? Verdict.fault? = none) :
    (g.validate (.record t fs)).outcome.rejections =
      (g.traceFields t fs).verdicts.filterMap Verdict.rejection? := by
  rw [outcome_validate_record, Outcome.rejections_ofVerdicts h]

theorem rejections_of_nested {w : Value} (hw : w = .nil ∨ ∃ s fs, w = .record s fs) (t : String)
    (h : (g.traceFields t w.fields).verdicts.findSome? Verdict.fault? = none) :
    (g.validate w).outcome.rejections =
      (g.traceFields t w.fields).verdicts.filterMap Verdict.rejection? := by
  rcases hw with rfl | ⟨s, fs, rfl⟩
  · rw [Value.fields, traceFields_nil]
    · rfl
    · intro _ _ hw
      contradiction
  · have hs := g.verdicts_traceFields t s fs
    rw [Value.fields, hs] at h ⊢
    exact g.rejections_record h

theorem entries_inline {f : Field Value} (hf : f.Marked) (hv : f.value.AllNested)
    (as bs : List (Field Value)) (t : String) {p : Report}
    (h : (g.validate (.record t (as ++ f :: bs))).outcome = .error (.rejected p)) :
    p.entries = (g.validate (.record t as)).outcome.rejections ++
      (f.value.members.flatMap fun w => (g.validate w).outcome.rejections) ++
      (g.validate (.record t bs)).outcome.rejections := by
  rw [outcome_validate_record] at h
  obtain ⟨hn, he, -⟩ := Outcome.ofVerdicts_eq_rejected_iff.mp h
  rw [g.verdicts_inline hf hv] at hn he
  simp only [List.findSome?_append, Option.or_eq_none_iff] at hn
  obtain ⟨⟨ha, hm⟩, hb⟩ := hn
  have hw : ∀ w ∈ f.value.members, (g.validate w).outcome.rejections =
      (g.traceFields t w.fields).verdicts.filterMap Verdict.rejection? := by
    intro w hw
    apply g.rejections_of_nested (hv w hw) t
    rw [List.findSome?_eq_none_iff] at hm ⊢
    intro v hv
    exact hm v (List.mem_flatMap.mpr ⟨w, hw, hv⟩)
  rw [← he, List.filterMap_append, List.filterMap_append, List.filterMap_flatMap,
    g.rejections_record ha, g.rejections_record hb, List.flatMap_congr hw]

/-- For the outcome a marked field is the fields of the records in it, at any depth and beside any
other rules. -/
theorem outcome_inline {f : Field Value} (hf : f.Marked) (as bs : List (Field Value))
    (typeName typeName' : String) :
    (∀ t fs, f.value = .record t fs →
      (g.validate (.record typeName (as ++ f :: bs))).outcome =
        (g.validate (.record typeName' (as ++ fs ++ bs))).outcome) ∧
    (∀ items, f.value = .sequence items → (∀ v ∈ items, v = .nil ∨ ∃ t fs, v = .record t fs) →
      (g.validate (.record typeName (as ++ f :: bs))).outcome =
        (g.validate (.record typeName' (as ++ items.flatMap Value.fields ++ bs))).outcome) ∧
    (f.value.AllNested → ∀ p,
      (g.validate (.record typeName (as ++ f :: bs))).outcome = .error (.rejected p) →
        p.entries = (g.validate (.record typeName as)).outcome.rejections ++
          (f.value.members.flatMap fun v => (g.validate v).outcome.rejections) ++
          (g.validate (.record typeName bs)).outcome.rejections) := by
  refine ⟨?_, ?_, ?_⟩
  · intro t fs hr
    have hm : f.value.members = [.record t fs] := by rw [hr, Value.members]; simp
    have hv : f.value.AllNested := by
      intro w hw
      rw [hm, List.mem_singleton] at hw
      exact Or.inr ⟨t, fs, hw⟩
    have h := g.outcome_eq_inline hf hv as bs typeName typeName'
    rwa [hm, List.flatMap_singleton] at h
  · intro items hs hi
    have hm : f.value.members = items := by rw [hs, Value.members]
    have hv : f.value.AllNested := by
      intro w hw
      exact hi w (hm ▸ hw)
    have h := g.outcome_eq_inline hf hv as bs typeName typeName'
    rwa [hm] at h
  · intro hv p hp
    exact g.entries_inline hf hv as bs typeName hp

def sailors : List Value :=
  [.record "Sailor" [.shown "name" "len:3" (.string "Jo")], .nil,
    .record "Sailor" [.shown "age" "min:18" (.int 17)]]

theorem outcome_inline_crew :
    let crew : Field Value :=
      .shown "crew" "max:x|nested:deep|rank:1|nested" (.sequence sailors)
    let code : Field Value := .shown "code" "len:3" (.string "abcd")
    let size : Field Value := .shown "size" "max:2" (.int 3)
    let g := standard Engine.words
    crew.Marked ∧
      (g.validate (.record "Ship" [code, crew, size])).outcome =
        (g.validate (.record "Flat" [code, .shown "name" "len:3" (.string "Jo"),
          .shown "age" "min:18" (.int 17), size])).outcome ∧
      (g.validate (.record "Ship" [code, crew, size])).outcome.rejections =
        [⟨"code", .lengthDiffers, "3"⟩, ⟨"name", .lengthDiffers, "3"⟩, ⟨"age", .tooSmall, "18"⟩,
          ⟨"size", .tooGreat, "2"⟩] := by
  intro crew code size g
  have ht : Tag.parse "max:x|nested:deep|rank:1|nested" =
      .ok [⟨"max", "x"⟩, ⟨"nested", "deep"⟩, ⟨"rank", "1"⟩, Rule.nested] := by rfl
  have hf : crew.Marked := ⟨rfl, _, Tag.parse_eq_ok_iff.mp ht, Rule.nested, by simp, rfl⟩
  have hi : ∀ v ∈ sailors, v = .nil ∨ ∃ t fs, v = .record t fs := by simp [sailors]
  have h := (g.outcome_inline hf [code] [size] "Ship" "Flat").2.1 sailors rfl hi
  have flat : [code] ++ sailors.flatMap Value.fields ++ [size] =
      [code, .shown "name" "len:3" (.string "Jo"), .shown "age" "min:18" (.int 17), size] := rfl
  rw [flat] at h
  exact ⟨hf, h, by decide +kernel⟩

end Registry

end FieldRules
