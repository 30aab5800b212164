import FieldRules.Trace

/-!
The trace of a record field by field, and of a sequence item by item, and the membership of verdicts
in a trace. Which verdict a stamped one comes from.
-/

set_option autoImplicit false

namespace FieldRules

theorem Trace.mem_verdicts_iff {t : Trace} {v : Verdict} :
    v ∈ t.verdicts ↔ Entry.judged v ∈ t := by
  rw [verdicts, List.mem_filterMap]
  constructor
  · intro h
    obtain ⟨e, he, hv⟩ := h
    cases e with
    | opened e => contradiction
    | judged w => exact Option.some.inj hv ▸ he
  · intro h
    exact ⟨.judged v, h, rfl⟩

theorem Trace.verdicts_flatMap {α : Type} (l : List α) (t : α → Trace) :
    verdicts (l.flatMap t) = l.flatMap fun a => (t a).verdicts :=
  List.filterMap_flatMap

theorem Trace.findSome?_verdicts (t : Trace) :
    t.verdicts.findSome? Verdict.fault? = t.findSome? Entry.fault? := by
  induction t with
  | nil => rfl
  | cons e t ih =>
    match e with
    | .opened e => exact ih
    | .judged .pass => exact ih
    | .judged (.reject r) => exact ih
    | .judged (.fault f) => rfl

theorem Verdict.stamp_eq_pass_iff {field : String} {v : Verdict} :
    v.stamp field = .pass ↔ v = .pass := by
  cases v <;> simp [stamp]

theorem Verdict.stamp_eq_reject_iff {field : String} {v : Verdict} {e : Rejection} :
    v.stamp field = .reject e ↔ ∃ r, v = .reject r ∧ r.stamp field = e := by
  cases v <;> simp [stamp]

theorem Verdict.stamp_eq_fault_iff {field : String} {v : Verdict} {f : Fault} :
    v.stamp field = .fault f ↔ v = .fault f := by
  cases v <;> simp [stamp]

/-- The rules by which a field is checked. A hidden field has none, and so has a field whose tag
cannot be read. -/
def Field.rules (f : Field Value) : List Rule :=
  if f.visible then (Tag.parse f.tag).toOption.getD [] else []

namespace Field

theorem rules_of_hidden {f : Field Value} (h : f.visible = false) : f.rules = [] := by
  simp [rules, h]

theorem rules_of_malformed {f : Field Value} {e : Fault} (h : Tag.parse f.tag = .error e) :
    f.rules = [] := by
  simp [rules, h, Except.toOption]

theorem rules_of_visible {f : Field Value} {rules : List Rule} (hv : f.visible = true)
    (h : Tag.parse f.tag = .ok rules) : f.rules = rules := by
  simp [Field.rules, hv, h, Except.toOption]

end Field

namespace Registry

def traceField (g : Registry) (typeName : String) (f : Field Value) : Trace :=
  if f.visible then
    match RuleSet.ofTag f.name f.tag with
    | .error e => [.judged (.fault e)]
    | .ok rules =>
      if rules.isEmpty then []
      else .opened (.checking typeName f.name f.value.kind rules.size) ::
        g.traceValue rules f.value
  else []

theorem traceFields_nil (g : Registry) (typeName : String) :
    g.traceFields typeName [] = [] := by
  rw [traceFields]

theorem traceFields_cons (g : Registry) (typeName : String) (f : Field Value)
    (fs : List (Field Value)) :
    g.traceFields typeName (f :: fs) = g.traceField typeName f ++ g.traceFields typeName fs := by
  rw [traceFields]
  rfl

theorem traceFields_eq_flatMap (g : Registry) (typeName : String) (fs : List (Field Value)) :
    g.traceFields typeName fs = fs.flatMap (g.traceField typeName) := by
  induction fs with
  | nil => rw [traceFields_nil, List.flatMap_nil]
  | cons f fs ih => rw [traceFields_cons, ih, List.flatMap_cons]

theorem traceFields_append (g : Registry) (typeName : String) (fs gs : List (Field Value)) :
    g.traceFields typeName (fs ++ gs) = g.traceFields typeName fs ++ g.traceFields typeName gs := by
  simp only [traceFields_eq_flatMap, List.flatMap_append]

theorem traceItems_eq_flatMap (g : Registry) (rules : RuleSet) (vs : List Value) :
    g.traceItems rules vs = vs.flatMap (g.traceItem rules) := by
  induction vs with
  | nil => rw [traceItems, List.flatMap_nil]
  | cons v vs ih => rw [traceItems, ih, List.flatMap_cons]

theorem traceItem_sequence (g : Registry) (rules : RuleSet) (vs : List Value) :
    g.traceItem rules (.sequence vs) = g.traceRules rules.field (.sequence vs) rules.rules := rfl

theorem traceField_of_hidden (g : Registry) (typeName : String) {f : Field Value}
    (h : f.visible = false) : g.traceField typeName f = [] := by
  simp only [traceField, h, Bool.false_eq_true, if_false]

theorem traceField_of_malformed (g : Registry) (typeName : String) {f : Field Value} {e : Fault}
    (hv : f.visible = true) (ht : Tag.parse f.tag = .error e) :
    g.traceField typeName f = [.judged (.fault e)] := by
  simp only [traceField, hv, if_true, RuleSet.ofTag, ht, Except.map]

theorem traceField_of_blank (g : Registry) (typeName : String) {f : Field Value}
    (ht : Tag.parse f.tag = .ok []) : g.traceField typeName f = [] := by
  simp only [traceField, RuleSet.ofTag, ht, Except.map]
  split <;> rfl

theorem traceField_of_rules (g : Registry) (typeName : String) {f : Field Value}
    {rules : List Rule} (hv : f.visible = true) (ht : Tag.parse f.tag = .ok rules)
    (hr : rules ≠ []) :
    g.traceField typeName f =
      .opened (.checking typeName f.name f.value.kind rules.length) ::
        g.traceValue ⟨f.name, rules⟩ f.value := by
  have he : rules.isEmpty = false := by simpa using hr
  simp only [traceField, hv, if_true, RuleSet.ofTag, ht, Except.map, RuleSet.isEmpty, he,
    Bool.false_eq_true, if_false, RuleSet.size]

theorem verdicts_traceField_shown (g : Registry) (typeName name : String) {tag : String}
    {rules : List Rule} (ht : Tag.parse tag = .ok rules) (hr : rules ≠ []) (v : Value) :
    (g.traceField typeName (.shown name tag v)).verdicts =
      (g.traceValue ⟨name, rules⟩ v).verdicts := by
  have h := g.traceField_of_rules typeName (f := .shown name tag v) rfl ht hr
  rw [h]
  rfl

theorem verdicts_traceFields_eq_flatMap (g : Registry) (typeName : String)
    (fs : List (Field Value)) :
    (g.traceFields typeName fs).verdicts =
      fs.flatMap fun f => (g.traceField typeName f).verdicts := by
  rw [traceFields_eq_flatMap, Trace.verdicts_flatMap]

end Registry

end FieldRules
