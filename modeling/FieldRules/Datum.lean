import FieldRules.Value

/-!
Data as a program holds it, and its view as a value. A text has an owner, a number has a width and a
sign, a sequence has a container, and any datum may sit behind references or an option. The view
forgets all of this: only what the datum means is left.
-/

set_option autoImplicit false

namespace FieldRules

inductive TextOwner where
  | lent | owned | lentOrOwned | ownedOrLent | boxed | counted | shared
  deriving DecidableEq, Repr

inductive Width where
  | w8 | w16 | w32 | w64 | native
  deriving DecidableEq, Repr

/-- The number of bits; a native word has sixty-four. -/
def Width.bits : Width → Nat
  | w8 => 8
  | w16 => 16
  | w32 => 32
  | w64 => 64
  | native => 64

inductive Layer where
  | option | box | counted | shared | reference
  deriving DecidableEq, Repr

inductive Container where
  | growable | slice | fixed | ring | plain
  deriving DecidableEq, Repr

inductive Datum where
  | absent
  | sealed
  | text (owner : TextOwner) (s : String)
  | word (signed : Bool) (width : Width) (bits : BitVec width.bits)
  | integer (n : Int)
  | single (x : Number.Binary32)
  | double (x : Number.Binary64)
  | flag (b : Bool)
  | behind (layer : Layer) (inner : Datum)
  | sequence (container : Container) (items : List Datum)
  | record (typeName : String) (fields : List (Field Datum))

/-- The number of a machine word, in two's complement if it is signed. -/
def wordValue (signed : Bool) {w : Nat} (bits : BitVec w) : Int :=
  if signed then bits.toInt else bits.toNat

namespace Datum

mutual

def view : Datum → Value
  | absent => .nil
  | sealed => .sealed
  | text _ s => .string s
  | word signed _ bits => .int (wordValue signed bits)
  | integer n => .int n
  | single x => .float x.widen
  | double x => .float x
  | flag b => .bool b
  | behind _ inner => inner.view
  | sequence _ items => .sequence (viewItems items)
  | record typeName fields => .record typeName (viewFields fields)
termination_by structural d => d

def viewItems : List Datum → List Value
  | [] => []
  | d :: ds => d.view :: viewItems ds
termination_by structural ds => ds

def viewFields : List (Field Datum) → List (Field Value)
  | [] => []
  | ⟨name, tag, visible, d⟩ :: fs => ⟨name, tag, visible, d.view⟩ :: viewFields fs
termination_by structural fs => fs

end

theorem viewItems_eq_map (items : List Datum) : viewItems items = items.map view := by
  induction items with
  | nil => rfl
  | cons d ds ih => simp [viewItems, ih]

theorem viewFields_eq_map (fields : List (Field Datum)) :
    viewFields fields = fields.map fun f => { f with value := f.value.view } := by
  induction fields with
  | nil => rfl
  | cons f fs ih => simp [viewFields, ih]

end Datum

end FieldRules
