import FieldRules.Sample
import FieldRules.Proofs.Descriptors
import FieldRules.Proofs.Lookup
import FieldRules.Proofs.Options
import FieldRules.Proofs.Reach
import FieldRules.Proofs.Reference

/-!
What a report blames. Main statement: every entry of a report names a field of a reached record and
says what a check said of the value of that field, whatever name the check put there itself. The
fields of a record of a declared type have names, so every entry about such records has one.
-/

set_option autoImplicit false

namespace FieldRules

theorem Verdict.mem_rejections_iff {vs : List Verdict} {e : Rejection} :
    e ∈ vs.filterMap rejection? ↔ .reject e ∈ vs := by
  rw [List.mem_filterMap]
  constructor
  · intro h
    obtain ⟨o, ho, he⟩ := h
    cases o with
    | reject r =>
      cases he
      exact ho
    | _ => contradiction
  · intro h
    exact ⟨.reject e, h, rfl⟩

namespace Registry

variable (g : Registry)

/-- A field is blamed if a check that one of its rules asks for rejects its value or an item of
it. -/
inductive Blames (f : Field Value) : Rejection → Prop where
  | intro {rules : List Rule} {w : Value} {r : Rule} {c : Check} {e : Rejection}
      (hv : f.visible = true) (ht : Tag.Spells f.tag rules)
      (hw : w ∈ f.value.judged (rules.any Rule.isNested)) (hr : r ∈ rules)
      (hc : g.lookup w.kind r.name = .ok c)
      (he : c.run r.name w r.condition = .reject e) :
      Blames f ⟨f.name, e.reason, e.condition⟩

variable {g}

theorem Blames.rules_ne_nil {f : Field Value} {e : Rejection} (h : g.Blames f e) :
    f.rules ≠ [] := by
  cases h with
  | intro hv ht hw hr hc he =>
    rw [Field.rules_of_visible hv (Tag.parse_eq_ok_iff.mpr ht)]
    exact List.ne_nil_of_mem hr

theorem Blames.field_eq {f : Field Value} {e : Rejection} (h : g.Blames f e) :
    e.field = f.name := by
  cases h
  rfl

theorem meets_reject_iff {f : Field Value} {e : Rejection} :
    g.Meets f (.reject e) ↔ g.Blames f e := by
  constructor
  · intro h
    generalize ho : Verdict.reject e = o at h
    cases h with
    | malformed => contradiction
    | rule hv ht hw hr =>
      obtain ⟨e', he', rfl⟩ := Verdict.stamp_eq_reject_iff.mp ho.symm
      obtain ⟨c, hc, hrun⟩ := (verdict_eq_iff fun _ => Verdict.noConfusion).mp he'
      exact .intro hv ht hw hr hc hrun
  · intro h
    cases h with
    | @intro rules w r c e hv ht hw hr hc he =>
      have hm : g.Meets f ((g.verdict w r).stamp f.name) := .rule hv ht hw hr
      rw [verdict_of_lookup hc, he] at hm
      exact hm

theorem mem_entries_iff {v : Value} {p : Report}
    (h : (g.validate v).outcome = .error (.rejected p)) (e : Rejection) :
    e ∈ p.entries ↔ ∃ t fs, Reached v (.record t fs) ∧ ∃ f ∈ fs, g.Blames f e := by
  obtain ⟨n, gs, rfl⟩ := record_of_rejected h
  rw [outcome_validate_record] at h
  obtain ⟨-, he, -⟩ := Outcome.ofVerdicts_eq_rejected_iff.mp h
  rw [← he, Verdict.mem_rejections_iff, mem_verdicts_iff]
  simp only [meets_reject_iff]

end Registry

def IsIdentifier (s : String) : Prop := s ≠ "" ∧ s ≠ "r#"

theorem unraw_ne_empty {ident : String} (h : IsIdentifier ident) : unraw ident ≠ "" := by
  unfold unraw
  split
  · rename_i s hs
    intro he
    have hn : s = [] := by simpa using congrArg String.toList he
    apply h.2
    rw [← String.ofList_toList (s := ident), hs, hn]
  · exact h.1

theorem FieldDeclaration.name_ne_empty {m : FieldDeclaration} {x : FieldEntry}
    (hm : IsIdentifier m.ident) (h : m.expand = .ok x) : x.descriptor.name ≠ "" := by
  obtain ⟨o, ho, rfl⟩ := expand_eq_ok_iff.mp h
  have hn := FieldOptions.named_ofAttributes ho
  rw [m.name_entry]
  cases hname : o.name with
  | none => exact unraw_ne_empty hm
  | some name =>
    intro he
    exact hn (hname.trans (congrArg some he))

/-- The fields of a record whose type is declared, with any contents. -/
def Derived (fs : List (Field Value)) : Prop :=
  ∃ (d : Declaration) (e : Expansion) (member : String → Value),
    (∀ m ∈ d.fields, IsIdentifier m.ident) ∧ d.expand = .ok e ∧ fs = e.fields .sealed member

theorem Descriptor.name_field {α : Type} (blank : α) (member : String → α) (x : Descriptor) :
    (x.field blank member).name = x.name := by
  cases x <;> rfl

theorem Derived.name_ne_empty {fs : List (Field Value)} (h : Derived fs) {f : Field Value}
    (hf : f ∈ fs) : f.name ≠ "" := by
  obtain ⟨d, e, member, hi, he, rfl⟩ := h
  obtain ⟨x, hx, rfl⟩ := List.mem_map.mp hf
  obtain ⟨m, hm, y, hy, rfl⟩ := Declaration.exists_of_mem_descriptors he hx
  rw [Descriptor.name_field]
  exact m.name_ne_empty (hi m hm) hy

namespace Registry

variable {g : Registry}

theorem hasField_of_named {v : Value} {p : Report}
    (h : (g.validate v).outcome = .error (.rejected p))
    (hn : ∀ t fs, Reached v (.record t fs) → ∀ f ∈ fs, f.rules ≠ [] → f.name ≠ "")
    {e : Rejection} (he : e ∈ p.entries) : e.hasField = true := by
  obtain ⟨t, fs, hr, f, hf, hb⟩ := (mem_entries_iff h e).mp he
  have hname := hn t fs hr f hf hb.rules_ne_nil
  rw [Rejection.hasField, hb.field_eq]
  simpa using hname

/-- A report has entries, and they are what checks said of the values of fields of reached records,
each under the name of its field. Where such fields have names, as they have in every record of a
declared type, each entry has one. -/
theorem entries_of_rejected {v : Value} {p : Report}
    (h : (g.validate v).outcome = .error (.rejected p)) :
    p.entries ≠ [] ∧
      (∀ e, e ∈ p.entries ↔
        ∃ t fs, Reached v (.record t fs) ∧ ∃ f ∈ fs, g.Blames f e) ∧
      ((∀ t fs, Reached v (.record t fs) → ∀ f ∈ fs, f.rules ≠ [] → f.name ≠ "") →
        ∀ e ∈ p.entries, e.hasField = true) ∧
      ((∀ t fs, Reached v (.record t fs) → Derived fs) →
        ∀ e ∈ p.entries, e.hasField = true) := by
  refine ⟨?_, mem_entries_iff h, ?_, ?_⟩
  · obtain ⟨n, gs, rfl⟩ := record_of_rejected h
    rw [outcome_validate_record] at h
    exact (Outcome.ofVerdicts_eq_rejected_iff.mp h).2.2
  · intro hn e he
    exact hasField_of_named h hn he
  · intro hd e he
    apply hasField_of_named h _ he
    intro t fs hr f hf _
    exact (hd t fs hr).name_ne_empty hf

def slander : Check := .string fun _ condition => .reject ⟨"elsewhere", .noMatch, condition⟩

theorem entries_of_rejected_app :
    let g := (empty.register "min" slander).register "len" slander
    let fs : List (Field Value) :=
      [.shown "name" "min:5" (.string "tagcheck"), .shown "version" "len:5" (.string "1.0")]
    let p : Report := .ofList [⟨"name", .noMatch, "5"⟩, ⟨"version", .noMatch, "5"⟩]
    (g.validate (.record "App" fs)).outcome = .error (.rejected p) ∧ Derived fs ∧
      ∀ e ∈ p.entries, e.hasField = true := by
  intro g fs p
  have h : (g.validate (.record "App" fs)).outcome = .error (.rejected p) := by decide +kernel
  have hd : Derived fs := by
    refine ⟨Sample.app, ⟨"App", [.shown "name" "min:5" "name", .shown "version" "len:5" "version"],
      _⟩, fun ident => if ident = "name" then .string "tagcheck" else .string "1.0", ?_, rfl, rfl⟩
    simp [Sample.app, Sample.record, Sample.shown, IsIdentifier]
  have hmin : Tag.parse "min:5" = .ok [⟨"min", "5"⟩] := by rfl
  have hlen : Tag.parse "len:5" = .ok [⟨"len", "5"⟩] := by rfl
  have hr : ∀ t gs, Reached (.record "App" fs) (.record t gs) → Derived gs := by
    intro t gs hr
    rcases hr.cases_head with he | ⟨w, hb, -⟩
    · cases he
      exact hd
    · -- no field of this record is marked, so nothing is below it
      exfalso
      cases hb with
      | @intro _ _ _ _ f rules hf _ ht hn _ =>
        have hp := Tag.parse_eq_ok_iff.mpr ht
        simp only [fs, List.mem_cons, List.not_mem_nil, or_false] at hf
        rcases hf with rfl | rfl
        · cases hp.symm.trans hmin
          exact absurd hn (by decide)
        · cases hp.symm.trans hlen
          exact absurd hn (by decide)
  exact ⟨h, hd, (entries_of_rejected h).2.2.2 hr⟩

end Registry

end FieldRules
