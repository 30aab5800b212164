import FieldRules.Kind
import FieldRules.Number.Binary

/-!
Field values and records. A record has a type name and fields in order; a field has a name, the tag
with its rules, and a value, and may be hidden. Values nest to any depth through sequences and
records.
-/

set_option autoImplicit false

namespace FieldRules

structure Field (α : Type) where
  name : String
  tag : String
  visible : Bool
  value : α
  deriving Repr

/-- A value as validation sees it. Nothing can be said about a sealed one. -/
inductive Value where
  | nil
  | sealed
  | string (s : String)
  | int (n : Int)
  | float (x : Number.Binary64)
  | bool (b : Bool)
  | sequence (items : List Value)
  | record (typeName : String) (fields : List (Field Value))

namespace Field

def shown (name tag : String) (value : Value) : Field Value := ⟨name, tag, true, value⟩

def untagged (name : String) : Field Value := ⟨name, "", true, .sealed⟩

def hidden (name tag : String) : Field Value := ⟨name, tag, false, .sealed⟩

end Field

namespace Value

def kind : Value → Kind
  | nil => .nil
  | sealed => .sealed
  | string _ => .string
  | int _ => .int
  | float _ => .float
  | bool _ => .bool
  | sequence _ => .sequence
  | record .. => .record

/-- Induction on a value whose hypotheses speak of the members of a list. -/
theorem induct {P : Value → Prop} (nil : P .nil) (sealed : P .sealed)
    (string : ∀ s, P (.string s)) (int : ∀ n, P (.int n)) (float : ∀ x, P (.float x))
    (bool : ∀ b, P (.bool b)) (sequence : ∀ items, (∀ v ∈ items, P v) → P (.sequence items))
    (record : ∀ typeName fields, (∀ f ∈ fields, P f.value) → P (.record typeName fields)) :
    ∀ v, P v
  | .nil => nil
  | .sealed => sealed
  | .string s => string s
  | .int n => int n
  | .float x => float x
  | .bool b => bool b
  | .sequence items => sequence items fun v _ =>
    induct nil sealed string int float bool sequence record v
  | .record typeName fields => record typeName fields fun f _ =>
    induct nil sealed string int float bool sequence record f.value
termination_by v => sizeOf v
decreasing_by
  · simp_wf
    have := List.sizeOf_lt_of_mem ‹_›
    omega
  · simp_wf
    have h := List.sizeOf_lt_of_mem ‹_›
    have : sizeOf f.value < sizeOf f := by cases f; simp
    omega

end Value

end FieldRules
