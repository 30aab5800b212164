import FieldRules.Walk

/-!
Traces: what a walk would meet if no fault ended it, in order. A trace decides its walk: the walk
makes known the events before the first fault, and comes to that fault, or to all rejections if
there is none.
-/

set_option autoImplicit false

namespace FieldRules

namespace Verdict

def stamp (field : String) : Verdict → Verdict
  | pass => pass
  | reject r => reject (r.stamp field)
  | fault f => fault f

def fault? : Verdict → Option Fault
  | fault f => some f
  | _ => none

def rejection? : Verdict → Option Rejection
  | reject r => some r
  | _ => none

/-- The first fault among verdicts, or their rejections if there is no fault. -/
def gather (vs : List Verdict) : Except Fault (List Rejection) :=
  match vs.findSome? fault? with
  | some f => .error f
  | none => .ok (vs.filterMap rejection?)

end Verdict

/-- One thing that a walk meets: a field that it opens, or a verdict. -/
inductive Entry where
  | opened (e : Event)
  | judged (v : Verdict)

namespace Entry

def event? : Entry → Option Event
  | opened e => some e
  | judged _ => none

def verdict? : Entry → Option Verdict
  | opened _ => none
  | judged v => some v

def fault? (e : Entry) : Option Fault := e.verdict?.bind Verdict.fault?

end Entry

abbrev Trace := List Entry

namespace Trace

def verdicts (t : Trace) : List Verdict := t.filterMap Entry.verdict?

def eventsMet (t : Trace) : List Event :=
  (t.takeWhile fun e => e.fault?.isNone).filterMap Entry.event?

def walk (t : Trace) : Walk := ⟨t.eventsMet, Verdict.gather t.verdicts⟩

@[simp] theorem verdicts_append (s t : Trace) : verdicts (s ++ t) = s.verdicts ++ t.verdicts :=
  List.filterMap_append

theorem walk_nil : walk [] = .done := rfl

theorem walk_fault (f : Fault) (t : Trace) : walk (.judged (.fault f) :: t) = .abort f := rfl

theorem walk_opened (e : Event) (t : Trace) :
    walk (.opened e :: t) = (Walk.tell e).andThen fun _ => walk t := by
  change Walk.mk (e :: t.eventsMet) (Verdict.gather t.verdicts) = _
  simp only [Walk.andThen, Walk.tell, walk]
  cases Verdict.gather t.verdicts <;> rfl

theorem walk_pass (t : Trace) : walk (.judged .pass :: t) = walk t := rfl

theorem walk_reject (r : Rejection) (t : Trace) :
    walk (.judged (.reject r) :: t) = Walk.andThen ⟨[], .ok [r]⟩ fun _ => walk t := by
  simp only [Walk.andThen, walk, List.nil_append]
  change Walk.mk t.eventsMet (Verdict.gather (.reject r :: t.verdicts)) = _
  simp only [Verdict.gather, List.findSome?_cons, Verdict.fault?]
  cases List.findSome? Verdict.fault? t.verdicts <;> rfl

theorem walk_append (s t : Trace) : walk (s ++ t) = (walk s).andThen fun _ => walk t := by
  induction s with
  | nil => rw [walk_nil, Walk.done_andThen, List.nil_append]
  | cons e s ih =>
    match e with
    | .opened e => rw [List.cons_append, walk_opened, walk_opened, ih, Walk.andThen_assoc]
    | .judged .pass => rw [List.cons_append, walk_pass, walk_pass, ih]
    | .judged (.reject r) => rw [List.cons_append, walk_reject, walk_reject, ih, Walk.andThen_assoc]
    | .judged (.fault f) => rw [List.cons_append, walk_fault, walk_fault, Walk.abort_andThen]

theorem walk_stamp (field : String) (v : Verdict) :
    walk [.judged (v.stamp field)] = .ofVerdict field v := by
  cases v <;> rfl

end Trace

namespace Registry

def traceRules (g : Registry) (field : String) (value : Value) (rules : List Rule) : Trace :=
  rules.map fun r => .judged ((g.verdict value r).stamp field)

mutual

def traceFields (g : Registry) (typeName : String) : List (Field Value) → Trace
  | [] => []
  | ⟨name, tag, visible, value⟩ :: fs =>
    (if visible then
      match RuleSet.ofTag name tag with
      | .error f => [.judged (.fault f)]
      | .ok rules =>
        if rules.isEmpty then []
        else .opened (.checking typeName name value.kind rules.size) :: g.traceValue rules value
    else []) ++ g.traceFields typeName fs
termination_by structural fs => fs

def traceValue (g : Registry) (rules : RuleSet) : Value → Trace
  | .nil => []
  | .record typeName fields => if rules.hasNested then g.traceFields typeName fields else []
  | .sequence items => g.traceItems rules items
  | v => g.traceRules rules.field v rules.rules
termination_by structural v => v

def traceItems (g : Registry) (rules : RuleSet) : List Value → Trace
  | [] => []
  | v :: vs => g.traceItem rules v ++ g.traceItems rules vs
termination_by structural vs => vs

def traceItem (g : Registry) (rules : RuleSet) : Value → Trace
  | .nil => []
  | .record typeName fields =>
    if rules.hasNested then g.traceFields typeName fields
    else g.traceRules rules.field (.record typeName fields) rules.rules
  | v => g.traceRules rules.field v rules.rules
termination_by structural v => v

end

theorem walkRules_eq (g : Registry) (field : String) (value : Value) (rules : List Rule) :
    g.walkRules field value rules = (g.traceRules field value rules).walk := by
  induction rules with
  | nil => rfl
  | cons r rs ih =>
    rw [walkRules, ih, ← Trace.walk_stamp, ← Trace.walk_append]
    rfl

mutual

theorem walkFields_eq (g : Registry) (typeName : String) (fs : List (Field Value)) :
    g.walkFields typeName fs = (g.traceFields typeName fs).walk := by
  match fs with
  | [] => simp only [walkFields, traceFields, Trace.walk_nil]
  | ⟨name, tag, visible, value⟩ :: fs =>
    rw [walkFields, traceFields, Trace.walk_append, walkFields_eq g typeName fs]
    congr 1
    cases visible with
    | false => rfl
    | true =>
      simp only [if_true]
      cases RuleSet.ofTag name tag with
      | error f => rfl
      | ok rules =>
        simp only
        cases rules.isEmpty with
        | true => rfl
        | false =>
          simp only [Bool.false_eq_true, if_false, Trace.walk_opened]
          rw [walkValue_eq g rules value]
termination_by structural fs

theorem walkValue_eq (g : Registry) (rules : RuleSet) (v : Value) :
    g.walkValue rules v = (g.traceValue rules v).walk := by
  match v with
  | .nil => simp only [walkValue, traceValue, Trace.walk_nil]
  | .record typeName fields =>
    simp only [walkValue, traceValue]
    split
    · exact walkFields_eq g typeName fields
    · rfl
  | .sequence items =>
    simp only [walkValue, traceValue]
    exact walkItems_eq g rules items
  | .sealed => simp only [walkValue, traceValue, walkRules_eq]
  | .string s => simp only [walkValue, traceValue, walkRules_eq]
  | .int n => simp only [walkValue, traceValue, walkRules_eq]
  | .float x => simp only [walkValue, traceValue, walkRules_eq]
  | .bool b => simp only [walkValue, traceValue, walkRules_eq]
termination_by structural v

theorem walkItems_eq (g : Registry) (rules : RuleSet) (vs : List Value) :
    g.walkItems rules vs = (g.traceItems rules vs).walk := by
  match vs with
  | [] => simp only [walkItems, traceItems, Trace.walk_nil]
  | v :: vs =>
    rw [walkItems, traceItems, Trace.walk_append, walkItem_eq g rules v, walkItems_eq g rules vs]
termination_by structural vs

theorem walkItem_eq (g : Registry) (rules : RuleSet) (v : Value) :
    g.walkItem rules v = (g.traceItem rules v).walk := by
  match v with
  | .nil => simp only [walkItem, traceItem, Trace.walk_nil]
  | .record typeName fields =>
    simp only [walkItem, traceItem]
    split
    · exact walkFields_eq g typeName fields
    · exact walkRules_eq g rules.field _ rules.rules
  | .sequence items => simp only [walkItem, traceItem, walkRules_eq]
  | .sealed => simp only [walkItem, traceItem, walkRules_eq]
  | .string s => simp only [walkItem, traceItem, walkRules_eq]
  | .int n => simp only [walkItem, traceItem, walkRules_eq]
  | .float x => simp only [walkItem, traceItem, walkRules_eq]
  | .bool b => simp only [walkItem, traceItem, walkRules_eq]
termination_by structural v

end

end Registry

end FieldRules
