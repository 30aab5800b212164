import FieldRules.Event
import FieldRules.Registry
import FieldRules.Tag

/-!
Walks. Walking a record checks its visible fields in order by the rules of their tags, and walks the
records below a field where its rules ask for it. Rejections add up; the first fault ends the walk.
-/

set_option autoImplicit false

namespace FieldRules

/-- The trace of a walk: what it made known, and the rejections it found or the fault that ended
it. -/
structure Walk where
  log : List Event
  result : Except Fault (List Rejection)
  deriving Repr

namespace Walk

def done : Walk := ⟨[], .ok []⟩

def abort (f : Fault) : Walk := ⟨[], .error f⟩

def tell (e : Event) : Walk := ⟨[e], .ok []⟩

def ofVerdict (field : String) : Verdict → Walk
  | .pass => done
  | .reject r => ⟨[], .ok [r.stamp field]⟩
  | .fault f => abort f

/-- One walk after the other. The second does not start if the first ends at a fault. -/
def andThen (w : Walk) (next : Unit → Walk) : Walk :=
  match w.result with
  | .error f => ⟨w.log, .error f⟩
  | .ok rs =>
    let v := next ()
    ⟨w.log ++ v.log, v.result.map (rs ++ ·)⟩

theorem done_andThen (next : Unit → Walk) : done.andThen next = next () := by
  simp only [andThen, done, List.nil_append]
  cases next () with
  | mk log result => cases result <;> rfl

theorem abort_andThen (f : Fault) (next : Unit → Walk) : (abort f).andThen next = abort f := rfl

theorem andThen_assoc (u : Walk) (v w : Unit → Walk) :
    (u.andThen v).andThen w = u.andThen fun _ => (v ()).andThen w := by
  cases u with
  | mk ulog uresult =>
    cases uresult with
    | error f => rfl
    | ok rs =>
      simp only [andThen]
      generalize v () = v
      cases v with
      | mk vlog vresult =>
        cases vresult with
        | error f => rfl
        | ok ss =>
          simp only [Except.map]
          generalize w () = w
          cases w with
          | mk wlog wresult => cases wresult <;> simp

end Walk

namespace Registry

/-- Looks a rule up for the kind of a value and runs its check. -/
def verdict (g : Registry) (value : Value) (rule : Rule) : Verdict :=
  match g.lookup value.kind rule.name with
  | .error f => .fault f
  | .ok check => check.run rule.name value rule.condition

def walkRules (g : Registry) (field : String) (value : Value) : List Rule → Walk
  | [] => .done
  | r :: rs => (Walk.ofVerdict field (g.verdict value r)).andThen fun _ =>
    g.walkRules field value rs

mutual

def walkFields (g : Registry) (typeName : String) : List (Field Value) → Walk
  | [] => .done
  | ⟨name, tag, visible, value⟩ :: fs =>
    Walk.andThen
      (if visible then
        match RuleSet.ofTag name tag with
        | .error f => .abort f
        | .ok rules =>
          if rules.isEmpty then .done
          else (Walk.tell (.checking typeName name value.kind rules.size)).andThen fun _ =>
            g.walkValue rules value
      else .done)
      fun _ => g.walkFields typeName fs
termination_by structural fs => fs

/-- Walks the value of a field. A record is walked only under rules that ask for it. -/
def walkValue (g : Registry) (rules : RuleSet) : Value → Walk
  | .nil => .done
  | .record typeName fields =>
    if rules.hasNested then g.walkFields typeName fields else .done
  | .sequence items => g.walkItems rules items
  | v => g.walkRules rules.field v rules.rules
termination_by structural v => v

def walkItems (g : Registry) (rules : RuleSet) : List Value → Walk
  | [] => .done
  | v :: vs => (g.walkItem rules v).andThen fun _ => g.walkItems rules vs
termination_by structural vs => vs

/-- Walks one item. Unlike a field, an item that is a record is judged as a value unless the rules
ask for it to be walked. -/
def walkItem (g : Registry) (rules : RuleSet) : Value → Walk
  | .nil => .done
  | .record typeName fields =>
    if rules.hasNested then g.walkFields typeName fields
    else g.walkRules rules.field (.record typeName fields) rules.rules
  | v => g.walkRules rules.field v rules.rules
termination_by structural v => v

end

end Registry

end FieldRules
