import FieldRules.Declaration.Expansion
import Mathlib.Data.List.Forall2

/-!
Members and their entries. A record of a declared type has one descriptor for each member, in order,
and the flag beside it says whether it reads the member; there is no expansion if the shape is not
that of a record, and else if the attributes of a member are in error, of which the first counts.
-/

set_option autoImplicit false

namespace FieldRules

def Declaration.members (d : Declaration) : List FieldDeclaration :=
  match d.shape with
  | .named => d.fields
  | _ => []

def Descriptor.member? : Descriptor → Option String
  | shown _ _ member => some member
  | untagged _ => none
  | hidden .. => none

namespace FieldDeclaration

variable {m : FieldDeclaration} {x : FieldEntry} {err : DeclarationError}

theorem field_entry (m : FieldDeclaration) (o : FieldOptions) : (m.entry o).field = m := by
  rw [entry]
  split <;> rfl

theorem name_entry (m : FieldDeclaration) (o : FieldOptions) :
    (m.entry o).descriptor.name = o.name.getD (unraw m.ident) := by
  rw [entry]
  split <;> rfl

theorem inspected_entry (m : FieldDeclaration) (o : FieldOptions) :
    (m.entry o).inspected = (m.entry o).descriptor.member?.isSome := by
  rw [entry]
  split <;> rfl

theorem expand_eq_ok_iff :
    m.expand = .ok x ↔ ∃ o, FieldOptions.ofAttributes m.attributes = .ok o ∧ m.entry o = x := by
  rw [expand]
  cases FieldOptions.ofAttributes m.attributes <;> simp [Except.map]

theorem exists_expand_eq_ok_iff :
    (∃ x, m.expand = .ok x) ↔ ∃ o, FieldOptions.ofAttributes m.attributes = .ok o := by
  simp [expand_eq_ok_iff]

theorem expand_eq_error_iff :
    m.expand = .error err ↔ FieldOptions.ofAttributes m.attributes = .error err := by
  rw [expand]
  cases FieldOptions.ofAttributes m.attributes <;> simp [Except.map]

end FieldDeclaration

namespace Declaration

variable {fs : List FieldDeclaration} {ds : List FieldEntry} {d : Declaration} {e : Expansion}
  {err : DeclarationError}

theorem describe_cons_eq_ok_iff {m : FieldDeclaration} :
    describe (m :: fs) = .ok ds ↔
      ∃ x xs, m.expand = .ok x ∧ describe fs = .ok xs ∧ x :: xs = ds := by
  rw [describe]
  cases m.expand with
  | error err => simp
  | ok x => cases describe fs <;> simp [Except.map]

theorem describe_cons_eq_error_iff {m : FieldDeclaration} :
    describe (m :: fs) = .error err ↔
      m.expand = .error err ∨ (∃ x, m.expand = .ok x) ∧ describe fs = .error err := by
  rw [describe]
  cases m.expand with
  | error err => simp
  | ok x => cases describe fs <;> simp [Except.map]

theorem describe_eq_ok_iff :
    describe fs = .ok ds ↔ List.Forall₂ (fun m x => m.expand = .ok x) fs ds := by
  induction fs generalizing ds with
  | nil => cases ds <;> simp [describe]
  | cons m fs ih =>
    rw [describe_cons_eq_ok_iff, List.forall₂_cons_left_iff]
    simp only [ih]
    constructor
    · intro h
      obtain ⟨x, xs, hx, hxs, hds⟩ := h
      exact ⟨x, xs, hx, hxs, hds.symm⟩
    · intro h
      obtain ⟨x, xs, hx, hxs, hds⟩ := h
      exact ⟨x, xs, hx, hxs, hds.symm⟩

theorem exists_describe_iff :
    (∃ ds, describe fs = .ok ds) ↔ ∀ m ∈ fs, ∃ x, m.expand = .ok x := by
  induction fs with
  | nil => simp [describe]
  | cons m fs ih =>
    rw [List.forall_mem_cons, ← ih]
    simp only [describe_cons_eq_ok_iff]
    constructor
    · intro h
      obtain ⟨-, x, xs, hx, hxs, -⟩ := h
      exact ⟨⟨x, hx⟩, xs, hxs⟩
    · intro h
      obtain ⟨⟨x, hx⟩, xs, hxs⟩ := h
      exact ⟨x :: xs, x, xs, hx, hxs, rfl⟩

/-- The error of the first member that is in error is that of the whole. -/
theorem describe_eq_error_iff :
    describe fs = .error err ↔ ∃ before m after, fs = before ++ m :: after ∧
      (∀ n ∈ before, ∃ x, n.expand = .ok x) ∧ m.expand = .error err := by
  constructor
  · intro h
    induction fs with
    | nil => contradiction
    | cons m fs ih =>
      rcases describe_cons_eq_error_iff.mp h with hm | ⟨hm, hfs⟩
      · exact ⟨[], m, fs, rfl, by simp, hm⟩
      · obtain ⟨before, n, after, rfl, hb, hn⟩ := ih hfs
        exact ⟨m :: before, n, after, rfl, List.forall_mem_cons.mpr ⟨hm, hb⟩, hn⟩
  · intro h
    obtain ⟨before, m, after, rfl, hb, hm⟩ := h
    induction before with
    | nil => exact describe_cons_eq_error_iff.mpr (Or.inl hm)
    | cons n before ih =>
      obtain ⟨hn, hb⟩ := List.forall_mem_cons.mp hb
      exact describe_cons_eq_error_iff.mpr (Or.inr ⟨hn, ih hb⟩)

theorem expand_eq_ok_iff :
    d.expand = .ok e ↔ (d.shape = .named ∨ d.shape = .unit) ∧
      ∃ ds, describe d.members = .ok ds ∧
        e = ⟨unraw d.ident, ds.map FieldEntry.descriptor,
          [d.implementation (d.bounds ++ d.readBounds ds) .record,
            d.implementation (d.bounds ++ d.readBounds ds) .inspect]⟩ := by
  rw [expand, recordFields, members]
  cases d.shape with
  | named =>
    dsimp only
    cases describe d.fields <;> simp [eq_comm]
  | unit => simp [describe, eq_comm]
  | _ => simp

theorem expand_eq_error_iff :
    d.expand = .error err ↔
      (d.shape = .enumeration ∨ d.shape = .union) ∧ err = .notStruct ∨
      d.shape = .tuple ∧ err = .tupleStruct ∨ describe d.members = .error err := by
  rw [expand, recordFields, members]
  cases d.shape with
  | named =>
    dsimp only
    cases describe d.fields <;> simp [eq_comm]
  | _ => simp [describe, eq_comm]

theorem exists_of_mem_descriptors (h : d.expand = .ok e) {x : Descriptor}
    (hx : x ∈ e.descriptors) : ∃ m ∈ d.fields, ∃ y, m.expand = .ok y ∧ y.descriptor = x := by
  obtain ⟨-, ds, hd, rfl⟩ := expand_eq_ok_iff.mp h
  have hall := describe_eq_ok_iff.mp hd
  obtain ⟨y, hy, rfl⟩ := List.mem_map.mp hx
  obtain ⟨i, hi, rfl⟩ := List.mem_iff_getElem.mp hy
  have hm : i < d.members.length := hall.length_eq ▸ hi
  have hsub : d.members ⊆ d.fields := by
    unfold members
    split <;> simp
  exact ⟨d.members[i], hsub (List.getElem_mem hm), _, hall.get hm hi, rfl⟩

end Declaration

end FieldRules
