set_option autoImplicit false

namespace FieldRules

inductive Kind where
  | string | int | float | bool | sequence | record | sealed | nil
  deriving DecidableEq, Repr

namespace Kind

def name : Kind → String
  | string => "string"
  | int => "int"
  | float => "float"
  | bool => "bool"
  | sequence => "sequence"
  | record => "record"
  | sealed => "opaque"
  | nil => "nil"

instance : ToString Kind := ⟨name⟩

def all : List Kind := [string, int, float, bool, sequence, record, sealed, nil]

theorem mem_all (k : Kind) : k ∈ all := by cases k <;> decide

def rank : Kind → Nat
  | string => 0
  | int => 1
  | float => 2
  | bool => 3
  | sequence => 4
  | record => 5
  | sealed => 6
  | nil => 7

theorem all_getElem?_rank (k : Kind) : all[k.rank]? = some k := by cases k <;> rfl

theorem rank_injective {j k : Kind} (h : j.rank = k.rank) : j = k := by
  have hj := all_getElem?_rank j
  rw [h, all_getElem?_rank k] at hj
  exact (Option.some.inj hj).symm

instance : Ord Kind := ⟨fun j k => compare j.rank k.rank⟩

/-- The kinds whose values are checked as a whole. -/
def isScalar : Kind → Bool
  | string | int | float | bool => true
  | sequence | record | sealed | nil => false

def ofName? (s : String) : Option Kind := all.find? fun k => k.name == s

end Kind

end FieldRules
