import FieldRules.Rejection
import FieldRules.Text.Pieces

set_option autoImplicit false

namespace FieldRules

structure Report where
  entries : List Rejection
  deriving DecidableEq, Repr

namespace Report

def empty : Report := ⟨[]⟩

instance : EmptyCollection Report := ⟨empty⟩

def ofList (rs : List Rejection) : Report := ⟨rs⟩

def add (p : Report) (r : Rejection) : Report := ⟨p.entries ++ [r]⟩

def append (p q : Report) : Report := ⟨p.entries ++ q.entries⟩

instance : Append Report := ⟨append⟩

def extend (p : Report) (rs : List Rejection) : Report := ⟨p.entries ++ rs⟩

def size (p : Report) : Nat := p.entries.length

def isEmpty (p : Report) : Bool := p.entries.isEmpty

def hasErrors (p : Report) : Bool := !p.entries.isEmpty

def forField (p : Report) (field : String) : List Rejection :=
  p.entries.filter fun r => r.field == field

def toExcept (p : Report) : Except Report Unit := if p.isEmpty then .ok () else .error p

/-- The text of every entry, each on a line of its own. -/
def text (p : Report) : String := String.join (p.entries.map fun r => r.text ++ "\n")

instance : ToString Report := ⟨text⟩

def json (p : Report) : List Char := Text.Json.array (p.entries.map Rejection.members)

@[simp] theorem entries_empty : (∅ : Report).entries = [] := rfl

@[simp] theorem entries_ofList (rs : List Rejection) : (ofList rs).entries = rs := rfl

@[simp] theorem entries_add (p : Report) (r : Rejection) :
    (p.add r).entries = p.entries ++ [r] := rfl

@[simp] theorem entries_append (p q : Report) : (p ++ q).entries = p.entries ++ q.entries := rfl

@[simp] theorem entries_extend (p : Report) (rs : List Rejection) :
    (p.extend rs).entries = p.entries ++ rs := rfl

end Report

end FieldRules
