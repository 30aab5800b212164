import FieldRules.Datum
import FieldRules.Number.Reading
import FieldRules.Proofs.Widening

/-!
What data mean. A relation says it layer by layer: references and options around a datum are
nothing, a number is the same number, a sequence is the list of what its items mean. Main statement:
every datum means its view and nothing else.
-/

set_option autoImplicit false

namespace FieldRules

def Width.Holds (width : Width) (signed : Bool) (n : Int) : Prop :=
  if signed then -2 ^ (width.bits - 1) ≤ n ∧ n < 2 ^ (width.bits - 1)
  else 0 ≤ n ∧ n < 2 ^ width.bits

theorem Width.bits_pos (width : Width) : 0 < width.bits := by cases width <;> decide

theorem Width.bits_le (width : Width) : width.bits ≤ 64 := by cases width <;> decide

theorem Width.Holds.integerInRange {width : Width} {signed : Bool} {n : Int}
    (h : width.Holds signed n) : Number.integerInRange n = some n := by
  have hwhole : (2 : Int) ^ width.bits ≤ 2 ^ 64 := pow_le_pow_right₀ one_le_two width.bits_le
  have hhalf : (2 : Int) ^ (width.bits - 1) ≤ 2 ^ 64 :=
    pow_le_pow_right₀ one_le_two ((Nat.sub_le _ _).trans width.bits_le)
  refine if_pos ?_
  cases signed with
  | true =>
    simp only [Holds, if_true] at h
    simp only [Number.integerLimit]
    omega
  | false =>
    simp only [Holds, Bool.false_eq_true, if_false] at h
    simp only [Number.integerLimit]
    omega

theorem ofInt_wordValue (signed : Bool) {w : Nat} (bits : BitVec w) :
    BitVec.ofInt w (wordValue signed bits) = bits := by
  cases signed with
  | true => exact BitVec.ofInt_toInt
  | false =>
    change BitVec.ofInt w (bits.toNat : Int) = bits
    rw [BitVec.ofInt_natCast, BitVec.ofNat_toNat, BitVec.setWidth_eq]

theorem holds_wordValue (signed : Bool) {width : Width} (bits : BitVec width.bits) :
    width.Holds signed (wordValue signed bits) := by
  cases signed with
  | true => exact ⟨bits.le_toInt, bits.toInt_lt⟩
  | false =>
    have hlt : (bits.toNat : Int) < 2 ^ width.bits := by exact_mod_cast bits.isLt
    exact ⟨Int.natCast_nonneg _, hlt⟩

theorem wordValue_ofInt {signed : Bool} {width : Width} {n : Int} (h : width.Holds signed n) :
    wordValue signed (BitVec.ofInt width.bits n) = n := by
  cases signed with
  | true => exact BitVec.toInt_ofInt_eq_self width.bits_pos h.1 h.2
  | false =>
    change ((BitVec.ofInt width.bits n).toNat : Int) = n
    rw [BitVec.toNat_ofInt, Nat.cast_pow, Nat.cast_two, Int.emod_eq_of_lt h.1 h.2,
      Int.toNat_of_nonneg h.1]

/-- The number of a word is the one number of its type whose lowest bits are those of the word. -/
theorem wordValue_eq_iff {signed : Bool} {width : Width} {bits : BitVec width.bits} {n : Int} :
    wordValue signed bits = n ↔ width.Holds signed n ∧ BitVec.ofInt width.bits n = bits := by
  constructor
  · rintro rfl
    exact ⟨holds_wordValue signed bits, ofInt_wordValue signed bits⟩
  · rintro ⟨h, rfl⟩
    exact wordValue_ofInt h

namespace Datum

mutual

/-- What a datum is as a value. The ways in which a program holds it make no difference. -/
inductive Means : Datum → Value → Prop where
  | absent : Means .absent .nil
  | sealed : Means .sealed .sealed
  | text (owner : TextOwner) (s : String) : Means (.text owner s) (.string s)
  | word {signed : Bool} {width : Width} {bits : BitVec width.bits} {n : Int}
      (hn : width.Holds signed n) (hbits : BitVec.ofInt width.bits n = bits) :
      Means (.word signed width bits) (.int n)
  | integer (n : Int) : Means (.integer n) (.int n)
  | single {x : Number.Binary32} {y : Number.Binary64} (h : x.SameNumber y) :
      Means (.single x) (.float y)
  | double (x : Number.Binary64) : Means (.double x) (.float x)
  | flag (b : Bool) : Means (.flag b) (.bool b)
  | behind (layer : Layer) {d : Datum} {v : Value} (h : Means d v) : Means (.behind layer d) v
  | sequence (container : Container) {ds : List Datum} {vs : List Value} (h : MeansItems ds vs) :
      Means (.sequence container ds) (.sequence vs)
  | record (typeName : String) {fs : List (Field Datum)} {gs : List (Field Value)}
      (h : MeansFields fs gs) : Means (.record typeName fs) (.record typeName gs)

inductive MeansItems : List Datum → List Value → Prop where
  | nil : MeansItems [] []
  | cons {d : Datum} {v : Value} {ds : List Datum} {vs : List Value} (h : Means d v)
      (hs : MeansItems ds vs) : MeansItems (d :: ds) (v :: vs)

inductive MeansFields : List (Field Datum) → List (Field Value) → Prop where
  | nil : MeansFields [] []
  | cons (name tag : String) (visible : Bool) {d : Datum} {v : Value} {fs : List (Field Datum)}
      {gs : List (Field Value)} (h : Means d v) (hs : MeansFields fs gs) :
      MeansFields (⟨name, tag, visible, d⟩ :: fs) (⟨name, tag, visible, v⟩ :: gs)

end

mutual

theorem means_view (d : Datum) : d.Means d.view := by
  match d with
  | .absent => exact .absent
  | .sealed => exact .sealed
  | .text owner s => exact .text owner s
  | .word signed _ bits => exact .word (holds_wordValue signed bits) (ofInt_wordValue signed bits)
  | .integer n => exact .integer n
  | .single x => exact .single (Number.Binary.widen_eq_iff.mp rfl)
  | .double x => exact .double x
  | .flag b => exact .flag b
  | .behind layer inner => exact .behind layer (means_view inner)
  | .sequence container items => exact .sequence container (meansItems_viewItems items)
  | .record typeName fields => exact .record typeName (meansFields_viewFields fields)
termination_by structural d

theorem meansItems_viewItems (ds : List Datum) : MeansItems ds (viewItems ds) := by
  match ds with
  | [] => exact .nil
  | d :: ds => exact .cons (means_view d) (meansItems_viewItems ds)
termination_by structural ds

theorem meansFields_viewFields (fs : List (Field Datum)) : MeansFields fs (viewFields fs) := by
  match fs with
  | [] => exact .nil
  | ⟨name, tag, visible, d⟩ :: fs =>
    exact .cons name tag visible (means_view d) (meansFields_viewFields fs)
termination_by structural fs

end

mutual

theorem Means.view_eq {d : Datum} {v : Value} (h : d.Means v) : d.view = v := by
  cases h with
  | absent => rfl
  | sealed => rfl
  | text owner s => rfl
  | word hn hbits => exact congrArg Value.int (wordValue_eq_iff.mpr ⟨hn, hbits⟩)
  | integer n => rfl
  | single h => exact congrArg Value.float (Number.Binary.widen_eq_iff.mpr h)
  | double x => rfl
  | flag b => rfl
  | behind layer h => exact h.view_eq
  | sequence container h => exact congrArg Value.sequence h.viewItems_eq
  | record typeName h => exact congrArg (Value.record typeName) h.viewFields_eq

theorem MeansItems.viewItems_eq {ds : List Datum} {vs : List Value} (h : MeansItems ds vs) :
    viewItems ds = vs := by
  cases h with
  | nil => rfl
  | cons h hs => rw [viewItems, h.view_eq, hs.viewItems_eq]

theorem MeansFields.viewFields_eq {fs : List (Field Datum)} {gs : List (Field Value)}
    (h : MeansFields fs gs) : viewFields fs = gs := by
  cases h with
  | nil => rfl
  | cons name tag visible h hs => rw [viewFields, h.view_eq, hs.viewFields_eq]

end

theorem means_iff {d : Datum} {v : Value} : d.Means v ↔ d.view = v := by
  constructor
  · exact Means.view_eq
  · rintro rfl
    exact means_view d

example :
    let items : List Datum := [.behind .option (.word false .w64 (BitVec.allOnes 64)),
      .behind .box (.behind .option .absent), .word true .w64 (BitVec.intMin 64)]
    (Datum.behind .shared (.sequence .ring items)).view =
      .sequence [.int 18446744073709551615, .nil, .int (-9223372036854775808)] := by
  rfl

end Datum

end FieldRules
