import Mathlib.Logic.Relation
import FieldRules.Proofs.FlatTrace
import FieldRules.Proofs.Grammar

/-!
The records that a walk comes to, and the verdicts that each of their fields meets by itself. Main
statement: the verdicts in the trace of a record are those that the fields of its reached records
meet.
-/

set_option autoImplicit false

namespace FieldRules

namespace Value

/-- The items of a sequence; any other value by itself. -/
def members : Value → List Value
  | sequence items => items
  | v => [v]

theorem members_of_kind_ne {v : Value} (h : v.kind ≠ .sequence) : v.members = [v] := by
  cases v with
  | sequence items => exact absurd rfl h
  | _ => rfl

/-- Whether an item is judged as a value. With `nested`, records are walked instead. -/
def isJudged (nested : Bool) : Value → Bool
  | nil => false
  | record _ _ => !nested
  | _ => true

/-- The values that the rules of a field judge when the field has the given value. -/
def judged (nested : Bool) : Value → List Value
  | nil => []
  | record _ _ => []
  | sequence items => items.filter (isJudged nested)
  | v => [v]

end Value

/-- A record right below another one: the value of a visible field, or an item of it, where the tag
of the field asks for nested records to be walked. -/
inductive Below : Value → Value → Prop where
  | intro {typeName t : String} {fields fs : List (Field Value)} {f : Field Value}
      {rules : List Rule} (hf : f ∈ fields) (hv : f.visible = true)
      (ht : Tag.Spells f.tag rules) (hn : rules.any Rule.isNested = true)
      (hm : Value.record t fs ∈ f.value.members) : Below (.record typeName fields) (.record t fs)

/-- The records at any depth below a record, and the record itself. -/
def Reached : Value → Value → Prop := Relation.ReflTransGen Below

theorem Below.target_record {v w : Value} (h : Below v w) : ∃ t fs, w = .record t fs := by
  cases h with
  | @intro _ t _ fs => exact ⟨t, fs, rfl⟩

theorem Below.source_record {v w : Value} (h : Below v w) : ∃ t fs, v = .record t fs := by
  cases h with
  | @intro t _ fs => exact ⟨t, fs, rfl⟩

theorem Reached.source_record {v : Value} {t : String} {fs : List (Field Value)}
    (h : Reached v (.record t fs)) : ∃ t' fs', v = .record t' fs' := by
  rcases h.cases_head with rfl | ⟨w, hb, -⟩
  · exact ⟨t, fs, rfl⟩
  · exact hb.source_record

theorem flatMap_split {α β : Type} {l : List α} {f : α → List β} {b : β} {s t : List β}
    (h : l.flatMap f = s ++ b :: t) :
    ∃ a ∈ l, ∃ s' t', f a = s' ++ b :: t' ∧ s' ⊆ s := by
  induction l generalizing s with
  | nil => simp at h
  | cons a l ih =>
    rw [List.flatMap_cons, List.append_eq_append_iff] at h
    rcases h with ⟨u, hs, hu⟩ | ⟨u, ha, hu⟩
    · obtain ⟨a', hm, s', t', he, hsub⟩ := ih hu
      refine ⟨a', List.mem_cons_of_mem a hm, s', t', he, ?_⟩
      rw [hs]
      exact List.subset_append_of_subset_right (f a) hsub
    · cases u with
      | nil =>
        obtain ⟨a', hm, s', t', he, hsub⟩ := ih (s := []) hu.symm
        refine ⟨a', List.mem_cons_of_mem a hm, s', t', he, ?_⟩
        exact List.Subset.trans hsub (List.nil_subset s)
      | cons b' u =>
        rw [List.cons_append, List.cons.injEq] at hu
        obtain ⟨rfl, -⟩ := hu
        exact ⟨a, List.mem_cons_self .., s, u, ha, List.Subset.refl s⟩

theorem Field.spells_rules {f : Field Value} (h : f.rules ≠ []) :
    f.visible = true ∧ Tag.Spells f.tag f.rules := by
  cases hv : f.visible with
  | false => exact absurd (rules_of_hidden hv) h
  | true =>
    cases ht : Tag.parse f.tag with
    | error e => exact absurd (rules_of_malformed ht) h
    | ok rules =>
      rw [rules_of_visible hv ht]
      exact ⟨rfl, Tag.parse_eq_ok_iff.mp ht⟩

namespace Registry

variable (g : Registry)

/-- The verdicts that a field meets by itself, without those of the records below it. -/
inductive Meets (f : Field Value) : Verdict → Prop where
  | malformed {e : Fault} (hv : f.visible = true) (ht : Tag.parse f.tag = .error e) :
      Meets f (.fault e)
  | rule {rules : List Rule} {w : Value} {r : Rule} (hv : f.visible = true)
      (ht : Tag.Spells f.tag rules) (hw : w ∈ f.value.judged (rules.any Rule.isNested))
      (hr : r ∈ rules) : Meets f ((g.verdict w r).stamp f.name)

theorem judged_mem_traceRules {field : String} {v : Value} {rules : List Rule} {o : Verdict} :
    .judged o ∈ g.traceRules field v rules ↔ ∃ r ∈ rules, (g.verdict v r).stamp field = o := by
  simp [traceRules]

theorem judged_mem_traceItem {rules : RuleSet} {v : Value} {o : Verdict} :
    .judged o ∈ g.traceItem rules v ↔
      (v.isJudged rules.hasNested = true ∧
        ∃ r ∈ rules.rules, (g.verdict v r).stamp rules.field = o) ∨
      (rules.hasNested = true ∧ ∃ t fs, v = .record t fs ∧ .judged o ∈ g.traceFields t fs) := by
  cases v with
  | record t fs =>
    rw [traceItem]
    cases hn : rules.hasNested with
    | true => simp [Value.isJudged]
    | false => simp [Value.isJudged, judged_mem_traceRules]
  | nil => simp [traceItem, Value.isJudged]
  | sealed => simp [traceItem, Value.isJudged, judged_mem_traceRules]
  | string s => simp [traceItem, Value.isJudged, judged_mem_traceRules]
  | int n => simp [traceItem, Value.isJudged, judged_mem_traceRules]
  | float x => simp [traceItem, Value.isJudged, judged_mem_traceRules]
  | bool b => simp [traceItem, Value.isJudged, judged_mem_traceRules]
  | sequence items => simp [traceItem, Value.isJudged, judged_mem_traceRules]

theorem judged_mem_traceValue {rules : RuleSet} {v : Value} {o : Verdict} :
    .judged o ∈ g.traceValue rules v ↔
      (∃ w ∈ v.judged rules.hasNested,
        ∃ r ∈ rules.rules, (g.verdict w r).stamp rules.field = o) ∨
      (rules.hasNested = true ∧
        ∃ t fs, Value.record t fs ∈ v.members ∧ .judged o ∈ g.traceFields t fs) := by
  cases v with
  | record t fs =>
    rw [traceValue]
    cases hn : rules.hasNested <;> simp [Value.judged, Value.members]
  | sequence items =>
    rw [traceValue, traceItems_eq_flatMap, List.mem_flatMap]
    simp only [judged_mem_traceItem, Value.judged, Value.members, List.mem_filter]
    constructor
    · intro h
      obtain ⟨w, hw, ⟨hj, hr⟩ | ⟨hn, t, fs, rfl, ho⟩⟩ := h
      · exact Or.inl ⟨w, ⟨hw, hj⟩, hr⟩
      · exact Or.inr ⟨hn, t, fs, hw, ho⟩
    · intro h
      obtain ⟨w, ⟨hw, hj⟩, hr⟩ | ⟨hn, t, fs, hw, ho⟩ := h
      · exact ⟨w, hw, Or.inl ⟨hj, hr⟩⟩
      · exact ⟨.record t fs, hw, Or.inr ⟨hn, t, fs, rfl, ho⟩⟩
  | nil => simp [traceValue, Value.judged, Value.members]
  | sealed => simp [traceValue, Value.judged, Value.members, judged_mem_traceRules]
  | string s => simp [traceValue, Value.judged, Value.members, judged_mem_traceRules]
  | int n => simp [traceValue, Value.judged, Value.members, judged_mem_traceRules]
  | float x => simp [traceValue, Value.judged, Value.members, judged_mem_traceRules]
  | bool b => simp [traceValue, Value.judged, Value.members, judged_mem_traceRules]

theorem judged_mem_traceFields_of_mem {typeName : String} {fields : List (Field Value)}
    {f : Field Value} (hf : f ∈ fields) {o : Verdict} (h : .judged o ∈ g.traceField typeName f) :
    .judged o ∈ g.traceFields typeName fields := by
  rw [traceFields_eq_flatMap]
  exact List.mem_flatMap.mpr ⟨f, hf, h⟩

theorem judged_mem_traceField_of_value {typeName : String} {f : Field Value} {rules : List Rule}
    (hv : f.visible = true) (ht : Tag.Spells f.tag rules) (hr : rules ≠ []) {o : Verdict}
    (h : .judged o ∈ g.traceValue ⟨f.name, rules⟩ f.value) :
    .judged o ∈ g.traceField typeName f := by
  rw [g.traceField_of_rules typeName hv (Tag.parse_eq_ok_iff.mpr ht) hr]
  exact List.mem_cons_of_mem _ h

theorem judged_mem_of_meets {typeName : String} {fields : List (Field Value)} {f : Field Value}
    (hf : f ∈ fields) {o : Verdict} (h : g.Meets f o) :
    .judged o ∈ g.traceFields typeName fields := by
  apply g.judged_mem_traceFields_of_mem hf
  cases h with
  | malformed hv ht =>
    rw [g.traceField_of_malformed typeName hv ht]
    exact List.mem_singleton_self _
  | @rule rules w r hv ht hw hr =>
    apply g.judged_mem_traceField_of_value hv ht (List.ne_nil_of_mem hr)
    exact g.judged_mem_traceValue.mpr (Or.inl ⟨w, hw, r, hr, rfl⟩)

theorem judged_mem_of_below {typeName t : String} {fields fs : List (Field Value)}
    (h : Below (.record typeName fields) (.record t fs)) {o : Verdict}
    (ho : .judged o ∈ g.traceFields t fs) : .judged o ∈ g.traceFields typeName fields := by
  cases h with
  | @intro _ _ _ _ f rules hf hv ht hn hm =>
    obtain ⟨r, hr, -⟩ := List.any_eq_true.mp hn
    apply g.judged_mem_traceFields_of_mem hf
    apply g.judged_mem_traceField_of_value hv ht (List.ne_nil_of_mem hr)
    exact g.judged_mem_traceValue.mpr (Or.inr ⟨hn, t, fs, hm, ho⟩)

theorem judged_mem_of_reached {v w : Value} (h : Reached v w) {t : String}
    {fs : List (Field Value)} (hw : w = .record t fs) {o : Verdict}
    (ho : .judged o ∈ g.traceFields t fs) {typeName : String} {fields : List (Field Value)}
    (hv : v = .record typeName fields) : .judged o ∈ g.traceFields typeName fields := by
  subst hw
  induction h using Relation.ReflTransGen.head_induction_on generalizing typeName fields with
  | refl =>
    cases hv
    exact ho
  | head hb _ ih =>
    obtain ⟨s, gs, rfl⟩ := hb.target_record
    subst hv
    exact g.judged_mem_of_below hb (ih rfl)

theorem judged_split_traceItem {rules : RuleSet} {v : Value} {o : Verdict} {s t : Trace}
    (h : g.traceItem rules v = s ++ .judged o :: t) :
    (v.isJudged rules.hasNested = true ∧
      ∃ r ∈ rules.rules, (g.verdict v r).stamp rules.field = o) ∨
    (rules.hasNested = true ∧ ∃ n fs, v = .record n fs ∧
      g.traceFields n fs = s ++ .judged o :: t) := by
  have hm : .judged o ∈ g.traceItem rules v := by
    rw [h]
    exact List.mem_append_right s (List.mem_cons_self ..)
  rcases g.judged_mem_traceItem.mp hm with hj | ⟨hn, n, fs, rfl, -⟩
  · exact Or.inl hj
  · rw [traceItem, if_pos hn] at h
    exact Or.inr ⟨hn, n, fs, rfl, h⟩

theorem judged_split_traceValue {rules : RuleSet} {v : Value} {o : Verdict} {s t : Trace}
    (h : g.traceValue rules v = s ++ .judged o :: t) :
    (∃ w ∈ v.judged rules.hasNested,
      ∃ r ∈ rules.rules, (g.verdict w r).stamp rules.field = o) ∨
    (rules.hasNested = true ∧ ∃ n fs, Value.record n fs ∈ v.members ∧
      ∃ s' t', g.traceFields n fs = s' ++ .judged o :: t' ∧ s' ⊆ s) := by
  have hm : .judged o ∈ g.traceValue rules v := by
    rw [h]
    exact List.mem_append_right s (List.mem_cons_self ..)
  rcases g.judged_mem_traceValue.mp hm with hj | ⟨hn, n, fs, hr, -⟩
  · exact Or.inl hj
  · cases v with
    | sequence items =>
      rw [traceValue, traceItems_eq_flatMap] at h
      obtain ⟨w, hw, s', t', hi, hs⟩ := flatMap_split h
      rcases g.judged_split_traceItem hi with ⟨hj, hr⟩ | ⟨-, n, fs, rfl, hf⟩
      · exact Or.inl ⟨w, List.mem_filter.mpr ⟨hw, hj⟩, hr⟩
      · exact Or.inr ⟨hn, n, fs, hw, s', t', hf, hs⟩
    | record n' fs' =>
      rw [traceValue, if_pos hn] at h
      exact Or.inr ⟨hn, n', fs', List.mem_singleton_self _, s, t, h, List.Subset.refl s⟩
    | _ => cases List.mem_singleton.mp hr

theorem judged_split_traceField {typeName : String} {fields : List (Field Value)}
    {f : Field Value} (hf : f ∈ fields) {o : Verdict} {s t : Trace}
    (h : g.traceField typeName f = s ++ .judged o :: t) :
    (g.Meets f o ∧ (f.rules ≠ [] →
      .opened (.checking typeName f.name f.value.kind f.rules.length) ∈ s)) ∨
    ∃ n fs, Value.record n fs ∈ f.value.members ∧
      Below (.record typeName fields) (.record n fs) ∧
      ∃ s' t', g.traceFields n fs = s' ++ .judged o :: t' ∧ s' ⊆ s := by
  cases hv : f.visible with
  | false =>
    rw [g.traceField_of_hidden typeName hv] at h
    simp at h
  | true =>
    cases ht : Tag.parse f.tag with
    | error e =>
      have ho : .judged o ∈ g.traceField typeName f := by
        rw [h]
        exact List.mem_append_right s (List.mem_cons_self ..)
      rw [g.traceField_of_malformed typeName hv ht, List.mem_singleton, Entry.judged.injEq] at ho
      refine Or.inl ⟨ho ▸ .malformed hv ht, ?_⟩
      intro hr
      exact absurd (Field.rules_of_malformed ht) hr
    | ok rules =>
      have hp := Tag.parse_eq_ok_iff.mp ht
      have hr := Field.rules_of_visible hv ht
      by_cases he : rules = []
      · rw [g.traceField_of_blank typeName (he ▸ ht)] at h
        simp at h
      rw [g.traceField_of_rules typeName hv ht he] at h
      cases s with
      | nil => simp at h
      | cons e u =>
        rw [List.cons_append, List.cons.injEq] at h
        obtain ⟨rfl, h⟩ := h
        rcases g.judged_split_traceValue h with
          ⟨w, hw, r, hwr, rfl⟩ | ⟨hn, n, fs, hm, s', t', hs, hsub⟩
        · refine Or.inl ⟨.rule hv hp hw hwr, ?_⟩
          intro _
          rw [hr]
          exact List.mem_cons_self ..
        · exact Or.inr ⟨n, fs, hm, .intro hf hv hp hn hm, s', t', hs,
            List.subset_cons_of_subset _ hsub⟩

theorem opened_before_judged {o : Verdict} (v : Value) {n : String} {fs : List (Field Value)}
    (hm : Value.record n fs ∈ v.members) {s t : Trace}
    (h : g.traceFields n fs = s ++ .judged o :: t) :
    ∃ n' fs', Reached (.record n fs) (.record n' fs') ∧ ∃ f ∈ fs', g.Meets f o ∧
      (f.rules ≠ [] →
        .opened (.checking n' f.name f.value.kind f.rules.length) ∈ s) := by
  -- over a value that has the record among its members, so that fields and items are one case
  induction v using Value.induct generalizing n fs s t with
  | sequence items ih => exact ih (.record n fs) hm (List.mem_singleton_self _) h
  | record typeName fields ih =>
    cases List.mem_singleton.mp hm
    rw [traceFields_eq_flatMap] at h
    obtain ⟨f, hf, s', t', hs, hsub⟩ := flatMap_split h
    rcases g.judged_split_traceField hf hs with ⟨hmeet, hopen⟩ | ⟨n, fs, hm, hb, u, u', hu, husub⟩
    · exact ⟨typeName, fields, .refl, f, hf, hmeet, fun hr => hsub (hopen hr)⟩
    · obtain ⟨n', fs', hreach, f', hf', hmeet, hopen⟩ := ih f hf hm hu
      exact ⟨n', fs', .head hb hreach, f', hf', hmeet, fun hr => hsub (husub (hopen hr))⟩
  | nil => cases List.mem_singleton.mp hm
  | sealed => cases List.mem_singleton.mp hm
  | string s => cases List.mem_singleton.mp hm
  | int n => cases List.mem_singleton.mp hm
  | float x => cases List.mem_singleton.mp hm
  | bool b => cases List.mem_singleton.mp hm

theorem reached_of_judged_mem {o : Verdict} {t : String} {fs : List (Field Value)}
    (ho : .judged o ∈ g.traceFields t fs) :
    ∃ t' fs', Reached (.record t fs) (.record t' fs') ∧ ∃ f ∈ fs', g.Meets f o := by
  obtain ⟨s, u, h⟩ := List.append_of_mem ho
  obtain ⟨t', fs', hr, f, hf, hm, -⟩ :=
    g.opened_before_judged (.record t fs) (List.mem_singleton_self _) h
  exact ⟨t', fs', hr, f, hf, hm⟩

/-- Every verdict of a trace belongs to a field of a reached record, and none of theirs is left
out. -/
theorem mem_verdicts_iff {typeName : String} {fields : List (Field Value)} {o : Verdict} :
    o ∈ (g.traceFields typeName fields).verdicts ↔
      ∃ t fs, Reached (.record typeName fields) (.record t fs) ∧ ∃ f ∈ fs, g.Meets f o := by
  rw [Trace.mem_verdicts_iff]
  constructor
  · exact g.reached_of_judged_mem
  · intro h
    obtain ⟨t, fs, hr, f, hf, ho⟩ := h
    exact g.judged_mem_of_reached hr rfl (g.judged_mem_of_meets hf ho) rfl

end Registry

end FieldRules
