import Mathlib.Data.List.TakeWhile
import FieldRules.Proofs.Reach
import FieldRules.Proofs.Reference

/-!
The log of a validation. Main statement: it tells of the fields that have rules, each before what is
below it, up to the first fault, and closes with a line that fits the outcome. Which fields these
are does not depend on the registry; only the fault does.
-/

set_option autoImplicit false

namespace FieldRules

structure Line where
  level : Event.Level
  message : String
  attributes : List (String × Event.Attribute)

namespace Line

/-- The line of a field with rules, told when it is opened. -/
def opening (record : String) (f : Field Value) : Line :=
  ⟨.trace, "validating field", [("record", .text record), ("field", .text f.name),
    ("kind", .text f.value.kind.name), ("rules", .count f.rules.length)]⟩

def closing (record : String) : Outcome → List Line
  | .ok _ => []
  | .error (.rejected p) =>
    [⟨.debug, "record rejected", [("record", .text record), ("errors", .count p.entries.length)]⟩]
  | .error (.fault f) =>
    [⟨.debug, "validation aborted", [("record", .text record), ("error", .text (toString f))]⟩]

mutual

/-- The lines of the fields that have rules, each before those of the records below it. -/
def ofFields (record : String) : List (Field Value) → List Line
  | [] => []
  | ⟨name, tag, visible, value⟩ :: fs =>
    let f : Field Value := ⟨name, tag, visible, value⟩
    (if f.rules = [] then []
      else opening record f :: if f.rules.any Rule.isNested then ofValue value else []) ++
      ofFields record fs
termination_by structural fs => fs

def ofValue : Value → List Line
  | .record t fs => ofFields t fs
  | .sequence items => ofItems items
  | _ => []
termination_by structural v => v

def ofItems : List Value → List Line
  | [] => []
  | v :: vs => ofItem v ++ ofItems vs
termination_by structural vs => vs

def ofItem : Value → List Line
  | .record t fs => ofFields t fs
  | _ => []
termination_by structural v => v

end

end Line

def Event.line (e : Event) : Line := ⟨e.level, e.message, e.attributes⟩

theorem Entry.eq_of_fault? {e : Entry} {f : Fault} (h : e.fault? = some f) :
    e = .judged (.fault f) := by
  match e with
  | .judged (.fault f') => cases h; rfl

namespace Trace

def lines (t : Trace) : List Line := t.filterMap fun e => e.event?.map Event.line

/-- What a run with the given outcome meets of a trace: what stands before the fault that is the
outcome, or else everything. -/
inductive Cut : Trace → Outcome → Trace → Prop where
  | fault {met rest : Trace} {f : Fault} (h : ∀ e ∈ met, e.fault? = none) :
      Cut (met ++ .judged (.fault f) :: rest) (.error (.fault f)) met
  | whole {t : Trace} {o : Outcome} (h : ∀ e ∈ t, e.fault? = none)
      (ho : ∀ f, o ≠ .error (.fault f)) : Cut t o t

theorem lines_append (s t : Trace) : lines (s ++ t) = s.lines ++ t.lines :=
  List.filterMap_append

theorem lines_traceRules (g : Registry) (field : String) (v : Value) (rules : List Rule) :
    lines (g.traceRules field v rules) = [] := by
  simp [lines, Registry.traceRules, Entry.event?]

theorem cut_takeWhile (t : Trace) :
    t.Cut (.ofVerdicts t.verdicts) (t.takeWhile fun e => e.fault?.isNone) := by
  cases h : t.findSome? Entry.fault? with
  | some f =>
    have ho := Outcome.ofVerdicts_eq_fault_iff.mpr ((findSome?_verdicts t).trans h)
    obtain ⟨met, e, rest, rfl, he, hn⟩ := List.findSome?_eq_some_iff.mp h
    have hm : (met ++ e :: rest).takeWhile (fun e => e.fault?.isNone) = met := by
      rw [List.takeWhile_append_of_pos (by simpa using hn),
        List.takeWhile_cons_of_neg (by simp [he]), List.append_nil]
    rw [ho, hm, Entry.eq_of_fault? he]
    exact .fault hn
  | none =>
    have hn := List.findSome?_eq_none_iff.mp h
    have hm : t.takeWhile (fun e => e.fault?.isNone) = t :=
      List.takeWhile_eq_self_iff.mpr (by simpa using hn)
    rw [hm]
    refine .whole hn ?_
    intro f ho
    rw [Outcome.ofVerdicts_eq_fault_iff, findSome?_verdicts, h] at ho
    contradiction

theorem line_eventsMet (t : Trace) :
    t.eventsMet.map Event.line = lines (t.takeWhile fun e => e.fault?.isNone) := by
  rw [eventsMet, lines, List.map_filterMap]

end Trace

namespace Line

theorem mem_ofFields {record : String} {fs : List (Field Value)} {l : Line}
    (h : l ∈ ofFields record fs) :
    ∃ f ∈ fs, f.rules ≠ [] ∧
      (l = opening record f ∨ f.rules.any Rule.isNested = true ∧ l ∈ ofValue f.value) := by
  induction fs with
  | nil => simp [ofFields] at h
  | cons f fs ih =>
    rw [ofFields, List.mem_append] at h
    rcases h with h | h
    · refine ⟨f, List.mem_cons_self .., ?_⟩
      split at h
      · contradiction
      · rename_i hr
        rcases List.mem_cons.mp h with h | h
        · exact ⟨hr, Or.inl h⟩
        · split at h
          · rename_i hn
            exact ⟨hr, Or.inr ⟨hn, h⟩⟩
          · contradiction
    · obtain ⟨f', hf, hl⟩ := ih h
      exact ⟨f', List.mem_cons_of_mem f hf, hl⟩

theorem mem_ofItem {v : Value} {l : Line} (h : l ∈ ofItem v) :
    ∃ n fs, v = .record n fs ∧ l ∈ ofFields n fs := by
  cases v with
  | record n fs => exact ⟨n, fs, rfl, by simpa only [ofItem] using h⟩
  | _ => simp [ofItem] at h

theorem mem_ofItems {vs : List Value} {l : Line} (h : l ∈ ofItems vs) :
    ∃ v ∈ vs, l ∈ ofItem v := by
  induction vs with
  | nil => simp [ofItems] at h
  | cons v vs ih =>
    rw [ofItems, List.mem_append] at h
    rcases h with h | h
    · exact ⟨v, List.mem_cons_self .., h⟩
    · obtain ⟨w, hw, hl⟩ := ih h
      exact ⟨w, List.mem_cons_of_mem v hw, hl⟩

theorem mem_ofValue {v : Value} {l : Line} (h : l ∈ ofValue v) :
    ∃ n fs, Value.record n fs ∈ v.members ∧ l ∈ ofFields n fs := by
  cases v with
  | record n fs => exact ⟨n, fs, List.mem_singleton_self _, by simpa only [ofValue] using h⟩
  | sequence items =>
    rw [ofValue] at h
    obtain ⟨w, hw, hl⟩ := mem_ofItems h
    obtain ⟨n, fs, rfl, hl⟩ := mem_ofItem hl
    exact ⟨n, fs, hw, hl⟩
  | _ => simp [ofValue] at h

theorem reached_of_mem_ofFields {l : Line} (v : Value) {n : String} {fs : List (Field Value)}
    (hm : Value.record n fs ∈ v.members) (h : l ∈ ofFields n fs) :
    ∃ n' fs', Reached (.record n fs) (.record n' fs') ∧
      ∃ f ∈ fs', f.rules ≠ [] ∧ l = opening n' f := by
  induction v using Value.induct generalizing n fs with
  | sequence items ih => exact ih (.record n fs) hm (List.mem_singleton_self _) h
  | record typeName fields ih =>
    cases List.mem_singleton.mp hm
    obtain ⟨f, hf, hr, hl | ⟨hn, hl⟩⟩ := mem_ofFields h
    · exact ⟨typeName, fields, .refl, f, hf, hr, hl⟩
    · obtain ⟨hv, ht⟩ := Field.spells_rules hr
      obtain ⟨m, gs, hg, hl⟩ := mem_ofValue hl
      obtain ⟨n', fs', hreach, h'⟩ := ih f hf hg hl
      exact ⟨n', fs', .head (.intro hf hv ht hn hg) hreach, h'⟩
  | nil => cases List.mem_singleton.mp hm
  | sealed => cases List.mem_singleton.mp hm
  | string s => cases List.mem_singleton.mp hm
  | int n => cases List.mem_singleton.mp hm
  | float x => cases List.mem_singleton.mp hm
  | bool b => cases List.mem_singleton.mp hm

end Line

namespace Registry

variable (g : Registry)

theorem lines_traceField (record : String) (f : Field Value) :
    (g.traceField record f).lines =
      if f.rules = [] then []
      else .opening record f :: (g.traceValue ⟨f.name, f.rules⟩ f.value).lines := by
  cases hv : f.visible with
  | false => rw [g.traceField_of_hidden record hv, if_pos (Field.rules_of_hidden hv)]; rfl
  | true =>
    cases ht : Tag.parse f.tag with
    | error e =>
      rw [g.traceField_of_malformed record hv ht, if_pos (Field.rules_of_malformed ht)]
      rfl
    | ok rules =>
      have hr := Field.rules_of_visible hv ht
      by_cases he : rules = []
      · rw [g.traceField_of_blank record (he ▸ ht), if_pos (hr.trans he)]
        rfl
      · rw [g.traceField_of_rules record hv ht he, hr, if_neg he]
        have ho : Line.opening record f =
            Event.line (.checking record f.name f.value.kind rules.length) := by
          rw [← hr]
          rfl
        rw [ho]
        rfl

mutual

theorem lines_traceFields (record : String) (fs : List (Field Value)) :
    (g.traceFields record fs).lines = Line.ofFields record fs := by
  match fs with
  | [] => rw [traceFields_nil, Line.ofFields]; rfl
  | ⟨name, tag, visible, value⟩ :: fs =>
    rw [traceFields_cons, Trace.lines_append, Line.ofFields, lines_traceFields record fs,
      lines_traceField, lines_traceValue]
    rfl
termination_by structural fs

theorem lines_traceValue (rules : RuleSet) (v : Value) :
    (g.traceValue rules v).lines = if rules.hasNested then Line.ofValue v else [] := by
  match v with
  | .record t fs =>
    simp only [traceValue, Line.ofValue]
    split
    · exact lines_traceFields t fs
    · rfl
  | .sequence items =>
    simp only [traceValue, Line.ofValue]
    exact lines_traceItems rules items
  | .nil => simp [traceValue, Line.ofValue, Trace.lines]
  | .sealed => simp [traceValue, Line.ofValue, Trace.lines_traceRules]
  | .string s => simp [traceValue, Line.ofValue, Trace.lines_traceRules]
  | .int n => simp [traceValue, Line.ofValue, Trace.lines_traceRules]
  | .float x => simp [traceValue, Line.ofValue, Trace.lines_traceRules]
  | .bool b => simp [traceValue, Line.ofValue, Trace.lines_traceRules]
termination_by structural v

theorem lines_traceItems (rules : RuleSet) (vs : List Value) :
    (g.traceItems rules vs).lines = if rules.hasNested then Line.ofItems vs else [] := by
  match vs with
  | [] => simp [traceItems, Line.ofItems, Trace.lines]
  | v :: vs =>
    rw [traceItems, Line.ofItems, Trace.lines_append, lines_traceItem rules v,
      lines_traceItems rules vs]
    split <;> rfl
termination_by structural vs

theorem lines_traceItem (rules : RuleSet) (v : Value) :
    (g.traceItem rules v).lines = if rules.hasNested then Line.ofItem v else [] := by
  match v with
  | .record t fs =>
    simp only [traceItem, Line.ofItem]
    split
    · exact lines_traceFields t fs
    · exact Trace.lines_traceRules g rules.field _ rules.rules
  | .nil => simp [traceItem, Line.ofItem, Trace.lines]
  | .sealed => simp [traceItem, Line.ofItem, Trace.lines_traceRules]
  | .string s => simp [traceItem, Line.ofItem, Trace.lines_traceRules]
  | .int n => simp [traceItem, Line.ofItem, Trace.lines_traceRules]
  | .float x => simp [traceItem, Line.ofItem, Trace.lines_traceRules]
  | .bool b => simp [traceItem, Line.ofItem, Trace.lines_traceRules]
  | .sequence items => simp [traceItem, Line.ofItem, Trace.lines_traceRules]
termination_by structural v

end

theorem line_log_record (n : String) (fs : List (Field Value)) :
    (g.validate (.record n fs)).log.map Event.line =
      Trace.lines ((g.traceFields n fs).takeWhile fun e => e.fault?.isNone) ++
        Line.closing n (g.validate (.record n fs)).outcome := by
  rw [validate_record, ← Trace.line_eventsMet]
  generalize g.traceFields n fs = t
  unfold Validation.ofWalk
  split
  · rw [List.map_append]
    rfl
  · exact (List.append_nil _).symm
  · rw [List.map_append]
    rfl

/-- The log is determined by the walk: the openings up to the first fault, which is behind the
opening of its own field, and one closing line for a validation that fails. -/
theorem log_validate (v : Value) :
    ((∀ n fs, v ≠ .record n fs) → (g.validate v).log = []) ∧
    ∀ n fs, v = .record n fs →
      (g.traceFields n fs).lines = Line.ofFields n fs ∧
      ∃ met, (g.traceFields n fs).Cut (g.validate v).outcome met ∧
        (g.validate v).log.map Event.line = met.lines ++ Line.closing n (g.validate v).outcome ∧
        (∀ l ∈ met.lines, ∃ n' fs', Reached v (.record n' fs') ∧
          ∃ f ∈ fs', f.rules ≠ [] ∧ l = .opening n' f) ∧
        ∀ e, (g.validate v).outcome = .error (.fault e) →
          ∃ n' fs', Reached v (.record n' fs') ∧ ∃ f ∈ fs', g.Meets f (.fault e) ∧
            (f.rules ≠ [] → .opening n' f ∈ met.lines) := by
  constructor
  · intro h
    cases v with
    | record n fs => exact absurd rfl (h n fs)
    | _ => rfl
  · intro n fs hv
    subst hv
    have hcut := (g.traceFields n fs).cut_takeWhile
    rw [← outcome_validate_record] at hcut
    refine ⟨g.lines_traceFields n fs, _, hcut, g.line_log_record n fs, ?_, ?_⟩
    · intro l hl
      have hall : l ∈ Line.ofFields n fs := by
        rw [← g.lines_traceFields n fs]
        exact ((List.takeWhile_sublist _).filterMap _).subset hl
      exact Line.reached_of_mem_ofFields (.record n fs) (List.mem_singleton_self _) hall
    · intro e he
      rw [he] at hcut
      generalize ht : g.traceFields n fs = t at hcut
      generalize hm : t.takeWhile (fun e => e.fault?.isNone) = met at hcut ⊢
      cases hcut with
      | whole _ ho => exact absurd rfl (ho e)
      | fault _ =>
        obtain ⟨n', fs', hr, f, hf, hmeet, hopen⟩ :=
          g.opened_before_judged (.record n fs) (List.mem_singleton_self _) ht
        refine ⟨n', fs', hr, f, hf, hmeet, ?_⟩
        intro hne
        exact List.mem_filterMap.mpr ⟨_, hopen hne, rfl⟩

example :
    ((standard Engine.words).validate (.record "Order" [.shown "id" "len:2" (.string "a"),
      .shown "lines" "nested" (.sequence [.nil, .record "Line" [.shown "count" "min:x" (.int 1)]]),
      .shown "note" "len:4" .nil])).log =
      [.checking "Order" "id" .string 1, .checking "Order" "lines" .sequence 1,
        .checking "Line" "count" .int 1, .aborted "Order" (.invalidCondition "min" "x")] := by
  decide +kernel

end Registry

end FieldRules
