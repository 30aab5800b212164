import FieldRules.Proofs.Conditions
import FieldRules.Proofs.FlatTrace
import FieldRules.Proofs.Lookup
import FieldRules.Proofs.Reference

/-!
Values of the same shape, which differ at most in the contents of their scalars. Main statement:
where look-ups find built-in checks only, such values come to the same fault or both to none, and
open the same fields before it. Faults tell of the rules and the shape, never of the data.
-/

set_option autoImplicit false

namespace FieldRules

mutual

/-- Scalars of one kind stand at the same places of two values that are equal otherwise. -/
inductive SameShape : Value → Value → Prop where
  | nil : SameShape .nil .nil
  | sealed : SameShape .sealed .sealed
  | string (s s' : String) : SameShape (.string s) (.string s')
  | int (n n' : Int) : SameShape (.int n) (.int n')
  | float (x x' : Number.Binary64) : SameShape (.float x) (.float x')
  | bool (b b' : Bool) : SameShape (.bool b) (.bool b')
  | sequence {vs ws : List Value} (h : SameItems vs ws) :
      SameShape (.sequence vs) (.sequence ws)
  | record (typeName : String) {fs gs : List (Field Value)} (h : SameFields fs gs) :
      SameShape (.record typeName fs) (.record typeName gs)

/-- Items in pairs of the same shape. -/
inductive SameItems : List Value → List Value → Prop where
  | nil : SameItems [] []
  | cons {v w : Value} {vs ws : List Value} (h : SameShape v w) (hs : SameItems vs ws) :
      SameItems (v :: vs) (w :: ws)

/-- Fields in pairs of one name, tag and visibility, with values of the same shape. -/
inductive SameFields : List (Field Value) → List (Field Value) → Prop where
  | nil : SameFields [] []
  | cons (name tag : String) (visible : Bool) {v w : Value} {fs gs : List (Field Value)}
      (h : SameShape v w) (hs : SameFields fs gs) :
      SameFields (⟨name, tag, visible, v⟩ :: fs) (⟨name, tag, visible, w⟩ :: gs)

end

theorem SameShape.kind_eq {v w : Value} (h : SameShape v w) : v.kind = w.kind := by
  cases h <;> rfl

/-- Every check that a look-up finds is built-in, under whatever name. -/
def Registry.OnlyBuiltIns (engine : Engine) (g : Registry) : Prop :=
  ∀ kind name c, g.lookup kind name = .ok c → ∃ b : BuiltIn, c = b.check engine

namespace Validation

def fault? (r : Validation) : Option Fault :=
  match r.outcome with
  | .error e => e.fault?
  | .ok _ => none

def opened (r : Validation) : List Event := r.log.filter fun e => e.level == .trace

end Validation

/-- What an entry shows of the rules, without what it says of the data. -/
def Entry.schema (e : Entry) : Option Event × Option Fault := (e.event?, e.fault?)

namespace Trace

def schema (t : Trace) : List (Option Event × Option Fault) := t.map Entry.schema

theorem schema_append (s t : Trace) : schema (s ++ t) = s.schema ++ t.schema := List.map_append

theorem eventsMet_eq_schema (t : Trace) :
    t.eventsMet = (t.schema.takeWhile fun p => p.2.isNone).filterMap Prod.fst := by
  rw [schema, List.takeWhile_map, List.filterMap_map]
  rfl

theorem findSome?_fault?_eq_schema (t : Trace) :
    t.verdicts.findSome? Verdict.fault? = t.schema.findSome? Prod.snd := by
  rw [findSome?_verdicts, schema, List.findSome?_map]
  rfl

end Trace

theorem Verdict.fault?_eq_some_iff {v : Verdict} {f : Fault} :
    v.fault? = some f ↔ v = .fault f := by
  cases v <;> simp [fault?]

theorem Verdict.fault?_stamp (field : String) (v : Verdict) :
    (v.stamp field).fault? = v.fault? := by
  cases v <;> rfl

theorem BuiltIn.fault?_run_eq (engine : Engine) (b : BuiltIn) {v w : Value}
    (hv : b.kind = v.kind) (hw : b.kind = w.kind) (rule condition : String) :
    ((b.check engine).run rule v condition).fault? =
      ((b.check engine).run rule w condition).fault? := by
  apply Option.ext
  intro f
  rw [Verdict.fault?_eq_some_iff, Verdict.fault?_eq_some_iff, run_eq_fault_iff hv,
    run_eq_fault_iff hw]

namespace Registry

variable {engine : Engine} {g : Registry}

theorem fault?_verdict_eq (hg : g.OnlyBuiltIns engine) {v w : Value} (hk : v.kind = w.kind)
    (r : Rule) : (g.verdict v r).fault? = (g.verdict w r).fault? := by
  cases hl : g.lookup v.kind r.name with
  | error f => rw [verdict_of_lookup_error hl, verdict_of_lookup_error (hk ▸ hl)]
  | ok c =>
    obtain ⟨b, rfl⟩ := hg _ _ c hl
    have hc : b.kind = v.kind := (b.kind_check engine).symm.trans (kind_of_lookup hl)
    rw [verdict_of_lookup hl, verdict_of_lookup (hk ▸ hl)]
    exact b.fault?_run_eq engine hc (hc.trans hk) r.name r.condition

theorem schema_traceRules_eq (hg : g.OnlyBuiltIns engine) {v w : Value} (h : SameShape v w)
    (field : String) (rules : List Rule) :
    (g.traceRules field v rules).schema = (g.traceRules field w rules).schema := by
  simp only [Trace.schema, traceRules, List.map_map]
  apply List.map_congr_left
  intro r _
  simp only [Function.comp_apply, Entry.schema, Entry.event?, Entry.fault?, Entry.verdict?,
    Option.bind_some, Verdict.fault?_stamp, fault?_verdict_eq hg h.kind_eq]

theorem schema_traceField_eq {typeName name tag : String} {visible : Bool} {v w : Value}
    (hk : v.kind = w.kind)
    (h : ∀ rules, (g.traceValue rules v).schema = (g.traceValue rules w).schema) :
    (g.traceField typeName ⟨name, tag, visible, v⟩).schema =
      (g.traceField typeName ⟨name, tag, visible, w⟩).schema := by
  cases visible with
  | false => rfl
  | true =>
    simp only [traceField, if_true, hk]
    split
    · rfl
    · split
      · rfl
      · rename_i rules _ _
        exact congrArg (_ :: ·) (h rules)

mutual

theorem schema_traceValue_eq (hg : g.OnlyBuiltIns engine) {v w : Value} (h : SameShape v w)
    (rules : RuleSet) : (g.traceValue rules v).schema = (g.traceValue rules w).schema := by
  match h with
  | .nil => rfl
  | .record typeName hf =>
    rw [traceValue, traceValue]
    split
    · exact schema_traceFields_eq hg typeName hf
    · rfl
  | .sequence hs =>
    rw [traceValue, traceValue]
    exact schema_traceItems_eq hg hs rules
  | .sealed => rfl
  | .string s s' => exact schema_traceRules_eq hg (.string s s') rules.field rules.rules
  | .int n n' => exact schema_traceRules_eq hg (.int n n') rules.field rules.rules
  | .float x x' => exact schema_traceRules_eq hg (.float x x') rules.field rules.rules
  | .bool b b' => exact schema_traceRules_eq hg (.bool b b') rules.field rules.rules
termination_by structural h

theorem schema_traceItem_eq (hg : g.OnlyBuiltIns engine) {v w : Value} (h : SameShape v w)
    (rules : RuleSet) : (g.traceItem rules v).schema = (g.traceItem rules w).schema := by
  match h with
  | .nil => rfl
  | .record typeName hf =>
    rw [traceItem, traceItem]
    split
    · exact schema_traceFields_eq hg typeName hf
    · exact schema_traceRules_eq hg (.record typeName hf) rules.field rules.rules
  | .sequence hs => exact schema_traceRules_eq hg (.sequence hs) rules.field rules.rules
  | .sealed => rfl
  | .string s s' => exact schema_traceRules_eq hg (.string s s') rules.field rules.rules
  | .int n n' => exact schema_traceRules_eq hg (.int n n') rules.field rules.rules
  | .float x x' => exact schema_traceRules_eq hg (.float x x') rules.field rules.rules
  | .bool b b' => exact schema_traceRules_eq hg (.bool b b') rules.field rules.rules
termination_by structural h

theorem schema_traceItems_eq (hg : g.OnlyBuiltIns engine) {vs ws : List Value} (h : SameItems vs ws)
    (rules : RuleSet) : (g.traceItems rules vs).schema = (g.traceItems rules ws).schema := by
  match h with
  | .nil => rfl
  | .cons hv hs =>
    rw [traceItems, traceItems, Trace.schema_append, Trace.schema_append,
      schema_traceItem_eq hg hv rules, schema_traceItems_eq hg hs rules]
termination_by structural h

theorem schema_traceFields_eq (hg : g.OnlyBuiltIns engine) (typeName : String)
    {fs gs : List (Field Value)} (h : SameFields fs gs) :
    (g.traceFields typeName fs).schema = (g.traceFields typeName gs).schema := by
  match h with
  | .nil => rfl
  | .cons name tag visible hv hs =>
    rw [traceFields_cons, traceFields_cons, Trace.schema_append, Trace.schema_append,
      schema_traceFields_eq hg typeName hs,
      schema_traceField_eq hv.kind_eq (schema_traceValue_eq hg hv)]
termination_by structural h

end

end Registry

namespace Validation

theorem fault?_ofWalk (typeName : String) (t : Trace) :
    (ofWalk typeName t.walk).fault? = t.verdicts.findSome? Verdict.fault? := by
  rw [fault?, outcome_ofWalk, Outcome.ofVerdicts]
  cases t.verdicts.findSome? Verdict.fault? with
  | some f => rfl
  | none => cases t.verdicts.filterMap Verdict.rejection? <;> rfl

theorem opened_ofWalk (typeName : String) (t : Trace) :
    (ofWalk typeName t.walk).opened = t.eventsMet.filter fun e => e.level == .trace := by
  unfold ofWalk opened
  -- the event that closes a validation is of another level
  split <;> simp [Event.level, Trace.walk]

end Validation

namespace Registry

variable {engine : Engine} {g : Registry}

/-- The built-in checks may be registered over others. -/
theorem onlyBuiltIns_withStandard
    (hg : ∀ e ∈ g.entries, (∃ b : BuiltIn, e.check = b.check engine) ∨
      ∃ b : BuiltIn, e.kind = b.kind ∧ e.name = b.ruleName) :
    (g.withStandard engine).OnlyBuiltIns engine := by
  intro kind name c h
  obtain ⟨e, he, rfl, rfl, rfl⟩ := exists_entry_of_lookup h
  rcases mem_entries_withStandard he with ⟨b, rfl⟩ | he
  · exact ⟨b, rfl⟩
  · rcases hg e he with hb | ⟨b, hk, hn⟩
    · exact hb
    · rw [hk, hn, lookup_withStandard] at h
      exact ⟨b, (Except.ok.inj h).symm⟩

/-- The scalars of a value decide neither whether a validation ends at a fault, nor at which, nor
which fields it opens. -/
theorem validate_of_sameShape (hg : g.OnlyBuiltIns engine) {v w : Value}
    (h : SameShape v w) :
    (g.validate v).fault? = (g.validate w).fault? ∧
      (g.validate v).opened = (g.validate w).opened := by
  cases h with
  | record typeName hf =>
    have hs := schema_traceFields_eq hg typeName hf
    rw [validate_record, validate_record]
    constructor
    · rw [Validation.fault?_ofWalk, Validation.fault?_ofWalk, Trace.findSome?_fault?_eq_schema,
        Trace.findSome?_fault?_eq_schema, hs]
    · rw [Validation.opened_ofWalk, Validation.opened_ofWalk, Trace.eventsMet_eq_schema,
        Trace.eventsMet_eq_schema, hs]
  | nil => exact ⟨rfl, rfl⟩
  | sealed => exact ⟨rfl, rfl⟩
  | string s s' => exact ⟨rfl, rfl⟩
  | int n n' => exact ⟨rfl, rfl⟩
  | float x x' => exact ⟨rfl, rfl⟩
  | bool b b' => exact ⟨rfl, rfl⟩
  | sequence hs => exact ⟨rfl, rfl⟩

def parcel (label : String) (weight : Int) : Value :=
  .record "Parcel" [.shown "label" "size:3" (.string label),
    .shown "items" "nested" (.sequence [.record "Item" [.shown "weight" "max:x" (.int weight)]])]

theorem validate_of_sameShape_parcel :
    let engine := Engine.words
    let lax := empty.register "len" (.string fun _ _ => .pass)
    let g := (lax.register "size" (BuiltIn.length.check engine)).withStandard engine
    g.OnlyBuiltIns engine ∧ SameShape (parcel "abc" 5) (parcel "" 7) ∧
      (g.validate (parcel "abc" 5)).fault? = (g.validate (parcel "" 7)).fault? ∧
      (g.validate (parcel "abc" 5)).opened = (g.validate (parcel "" 7)).opened := by
  intro engine lax g
  have hg : g.OnlyBuiltIns engine := by
    apply onlyBuiltIns_withStandard
    intro e he
    rcases List.mem_cons.mp he with rfl | he
    · exact Or.inl ⟨.length, rfl⟩
    · cases List.mem_singleton.mp he
      exact Or.inr ⟨.length, rfl, rfl⟩
  have item : SameItems [.record "Item" [.shown "weight" "max:x" (.int 5)]]
      [.record "Item" [.shown "weight" "max:x" (.int 7)]] :=
    .cons (.record "Item" (.cons "weight" "max:x" true (.int 5 7) .nil)) .nil
  have h : SameShape (parcel "abc" 5) (parcel "" 7) :=
    .record "Parcel" (.cons "label" "size:3" true (.string "abc" "")
      (.cons "items" "nested" true (.sequence item) .nil))
  exact ⟨hg, h, validate_of_sameShape hg h⟩

end Registry

end FieldRules
