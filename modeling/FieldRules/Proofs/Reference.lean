import FieldRules.Validation
import FieldRules.Proofs.FlatTrace

/-!
The outcome of a validation read off the whole trace of the record. Main statement: the first fault
of the trace decides, wherever it stands among rejections; without a fault the rejections make the
report, in the order of the trace.
-/

set_option autoImplicit false

namespace FieldRules

/-- What a list of verdicts comes to. -/
def Outcome.ofVerdicts (vs : List Verdict) : Outcome :=
  match vs.findSome? Verdict.fault? with
  | some f => .error (.fault f)
  | none =>
    match vs.filterMap Verdict.rejection? with
    | [] => .ok ()
    | r :: rs => .error (.rejected (.ofList (r :: rs)))

theorem Verdict.eq_pass_iff (v : Verdict) : v = .pass ↔ v.fault? = none ∧ v.rejection? = none := by
  cases v <;> simp [fault?, rejection?]

theorem Outcome.ofVerdicts_eq_ok_iff (vs : List Verdict) :
    ofVerdicts vs = .ok () ↔ ∀ v ∈ vs, v = .pass := by
  have hf : vs.findSome? Verdict.fault? = none ↔ ∀ v ∈ vs, v.fault? = none :=
    List.findSome?_eq_none_iff
  have hr : vs.filterMap Verdict.rejection? = [] ↔ ∀ v ∈ vs, v.rejection? = none :=
    List.filterMap_eq_nil_iff
  have hv : (∀ v ∈ vs, v = .pass) ↔
      vs.findSome? Verdict.fault? = none ∧ vs.filterMap Verdict.rejection? = [] := by
    simp only [Verdict.eq_pass_iff, imp_and, forall_and, hf, hr]
  rw [hv, ofVerdicts]
  cases vs.findSome? Verdict.fault? with
  | some f => simp
  | none => cases vs.filterMap Verdict.rejection? <;> simp

theorem Outcome.ofVerdicts_eq_fault_iff {vs : List Verdict} {f : Fault} :
    ofVerdicts vs = .error (.fault f) ↔ vs.findSome? Verdict.fault? = some f := by
  rw [ofVerdicts]
  cases vs.findSome? Verdict.fault? with
  | some f' => simp
  | none => cases vs.filterMap Verdict.rejection? <;> simp

theorem Outcome.ofVerdicts_eq_rejected_iff {vs : List Verdict} {p : Report} :
    ofVerdicts vs = .error (.rejected p) ↔
      vs.findSome? Verdict.fault? = none ∧ vs.filterMap Verdict.rejection? = p.entries ∧
        p.entries ≠ [] := by
  obtain ⟨entries⟩ := p
  rw [ofVerdicts]
  cases vs.findSome? Verdict.fault? with
  | some f => simp
  | none =>
    cases vs.filterMap Verdict.rejection? with
    | nil =>
      constructor
      · intro h
        contradiction
      · intro h
        obtain ⟨-, he, hn⟩ := h
        exact absurd he.symm hn
    | cons r rs =>
      constructor
      · intro h
        cases h
        exact ⟨rfl, rfl, List.cons_ne_nil r rs⟩
      · intro h
        obtain ⟨-, he, -⟩ := h
        simp only [Report.ofList, he]

theorem Outcome.mem_of_ofVerdicts_eq_fault {vs : List Verdict} {f : Fault}
    (h : ofVerdicts vs = .error (.fault f)) : .fault f ∈ vs := by
  obtain ⟨v, hv, hf⟩ := List.exists_of_findSome?_eq_some (ofVerdicts_eq_fault_iff.mp h)
  cases v with
  | fault f' =>
    cases hf
    exact hv
  | _ => contradiction

theorem Outcome.exists_fault_of_mem {vs : List Verdict} {f : Fault} (h : .fault f ∈ vs) :
    ∃ f', ofVerdicts vs = .error (.fault f') := by
  cases hf : vs.findSome? Verdict.fault? with
  | some f' => exact ⟨f', ofVerdicts_eq_fault_iff.mpr hf⟩
  | none => cases List.findSome?_eq_none_iff.mp hf _ h

theorem Outcome.ofVerdicts_append_fault {vs : List Verdict}
    (h : ∀ e, ofVerdicts vs ≠ .error (.fault e)) (f : Fault) (ws : List Verdict) :
    ofVerdicts (vs ++ .fault f :: ws) = .error (.fault f) := by
  rw [ofVerdicts_eq_fault_iff, List.findSome?_append]
  cases hf : vs.findSome? Verdict.fault? with
  | some e => exact absurd (ofVerdicts_eq_fault_iff.mpr hf) (h e)
  | none => rfl

theorem Validation.outcome_ofWalk (typeName : String) (t : Trace) :
    (ofWalk typeName t.walk).outcome = .ofVerdicts t.verdicts := by
  simp only [ofWalk, Trace.walk, Verdict.gather, Outcome.ofVerdicts]
  cases t.verdicts.findSome? Verdict.fault? with
  | some f => rfl
  | none => cases t.verdicts.filterMap Verdict.rejection? <;> rfl

namespace Registry

theorem validate_record (g : Registry) (typeName : String) (fields : List (Field Value)) :
    g.validate (.record typeName fields) =
      .ofWalk typeName (g.traceFields typeName fields).walk := by
  rw [validate, walkFields_eq]

theorem outcome_validate_record (g : Registry) (typeName : String) (fields : List (Field Value)) :
    (g.validate (.record typeName fields)).outcome =
      .ofVerdicts (g.traceFields typeName fields).verdicts := by
  rw [validate_record, Validation.outcome_ofWalk]

theorem outcome_congr_middle (g : Registry) {typeName : String} {fs gs : List (Field Value)}
    (h : (g.traceFields typeName fs).verdicts = (g.traceFields typeName gs).verdicts)
    (as bs : List (Field Value)) :
    (g.validate (.record typeName (as ++ fs ++ bs))).outcome =
      (g.validate (.record typeName (as ++ gs ++ bs))).outcome := by
  simp only [outcome_validate_record, traceFields_append, Trace.verdicts_append, h]

theorem record_of_rejected {g : Registry} {v : Value} {p : Report}
    (h : (g.validate v).outcome = .error (.rejected p)) : ∃ t fs, v = .record t fs := by
  cases v with
  | record t fs => exact ⟨t, fs, rfl⟩
  | _ => simp [validate] at h

/-- The outcome is that of the flat list of verdicts, in which no fault has cut anything off. -/
theorem outcome_validate (g : Registry) (v : Value) :
    (g.validate v).outcome =
      match v with
      | .nil => .ok ()
      | .record typeName fields => .ofVerdicts (g.traceFields typeName fields).verdicts
      | other => .error (.fault (.notRecord other.kind)) := by
  cases v with
  | record typeName fields => exact g.outcome_validate_record typeName fields
  | nil => rfl
  | sealed => rfl
  | string s => rfl
  | int n => rfl
  | float x => rfl
  | bool b => rfl
  | sequence items => rfl

end Registry

end FieldRules
