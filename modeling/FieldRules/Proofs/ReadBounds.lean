import FieldRules.Proofs.Derivation

/-!
Bounds of derived implementations. Main statement: an expansion has one descriptor for each member,
and its two implementations differ in nothing but what they provide. Under a type parameter they ask
that the type of each member that is read can be inspected, in the order in which members are read,
and of the type of no other member; without one they ask for nothing new.
-/

set_option autoImplicit false

namespace FieldRules

namespace FieldDeclaration

instance : DecidablePred Read := fun _ => inferInstanceAs (Decidable (_ ∧ _))

theorem member?_stated (m : FieldDeclaration) :
    m.stated.descriptor.member? = if m.Read then some m.ident else none := by
  by_cases h : m.Read
  · obtain ⟨hv, ht⟩ := h
    obtain ⟨tag, htag⟩ := Option.isSome_iff_exists.mp ht
    rw [if_pos ⟨hv, ht⟩, stated, entry, hv, htag]
    rfl
  · rw [if_neg h, stated, entry]
    split
    · rename_i hv ht
      exact absurd ⟨hv, Option.isSome_of_eq_some ht⟩ h
    · rfl
    · rfl

theorem field_stated (m : FieldDeclaration) : m.stated.field = m := m.field_entry _

theorem inspected_stated (m : FieldDeclaration) : m.stated.inspected = decide m.Read := by
  rw [stated, inspected_entry, ← stated, member?_stated]
  by_cases h : m.Read <;> simp [h]

end FieldDeclaration

namespace Declaration

variable {d : Declaration} {e : Expansion}

/-- The members that a record of the declared type reads. -/
def reads (d : Declaration) : List FieldDeclaration := d.members.filter (·.Read)

theorem filterMap_member?_stated (d : Declaration) :
    ((d.members.map FieldDeclaration.stated).map FieldEntry.descriptor).filterMap
      Descriptor.member? = d.reads.map (·.ident) := by
  rw [reads, List.filterMap_map, List.filterMap_map, ← List.filterMap_eq_map,
    List.filterMap_filter]
  apply List.filterMap_congr
  intro m _
  simp [FieldDeclaration.member?_stated]

theorem readBounds_stated (h : ∃ p ∈ d.parameters, p.sort = .type) :
    d.readBounds (d.members.map FieldDeclaration.stated) =
      d.reads.map FieldDeclaration.bound := by
  have htype : (d.parameters.any fun p => p.sort == .type) = true := by simpa using h
  rw [readBounds, if_pos htype, List.filter_map, List.map_map, reads]
  simp only [Function.comp_def, FieldDeclaration.inspected_stated, FieldDeclaration.field_stated]

theorem readBounds_of_no_type {xs : List FieldEntry}
    (h : ¬ ∃ p ∈ d.parameters, p.sort = .type) : d.readBounds xs = [] := by
  rw [readBounds, if_neg]
  simpa using h

theorem exists_expand_iff :
    (∃ e, d.expand = .ok e) ↔ (d.shape = .named ∨ d.shape = .unit) ∧
      ∀ m ∈ d.members, ∃ o, FieldOptions.ofAttributes m.attributes = .ok o := by
  have hds : (∃ ds, describe d.members = .ok ds) ↔
      ∀ m ∈ d.members, ∃ o, FieldOptions.ofAttributes m.attributes = .ok o := by
    simp only [exists_describe_iff, FieldDeclaration.exists_expand_eq_ok_iff]
  rw [← hds]
  simp only [expand_eq_ok_iff]
  constructor
  · intro h
    obtain ⟨-, hs, ds, hd, -⟩ := h
    exact ⟨hs, ds, hd⟩
  · intro h
    obtain ⟨hs, ds, hd⟩ := h
    exact ⟨_, hs, ds, hd, rfl⟩

/-- Whether a declaration has an expansion, and what its implementations ask for. -/
theorem expand_bounds (d : Declaration) :
    ((∃ e, d.expand = .ok e) ↔ (d.shape = .named ∨ d.shape = .unit) ∧
      ∀ m ∈ d.members, ∃ o, FieldOptions.ofAttributes m.attributes = .ok o) ∧
    (∀ err, d.expand = .error err ↔
      (d.shape = .enumeration ∨ d.shape = .union) ∧ err = .notStruct ∨
      d.shape = .tuple ∧ err = .tupleStruct ∨
      ∃ before m after, d.members = before ++ m :: after ∧
        (∀ n ∈ before, ∃ o, FieldOptions.ofAttributes n.attributes = .ok o) ∧
        FieldOptions.ofAttributes m.attributes = .error err) ∧
    ∀ e, d.expand = .ok e →
      List.Forall₂ (fun m x => x.name = m.name?.getD (unraw m.ident) ∧
        x.member? = if m.Read then some m.ident else none) d.members e.descriptors ∧
      (d.shape = .unit → e.descriptors = []) ∧
      ∃ asked,
        e.implementations =
          [⟨.record, d.ordered.map Parameter.printed, d.target, d.bounds ++ asked⟩,
            ⟨.inspect, d.ordered.map Parameter.printed, d.target, d.bounds ++ asked⟩] ∧
        e.descriptors.filterMap Descriptor.member? = d.reads.map (·.ident) ∧
        ((∃ p ∈ d.parameters, p.sort = .type) → asked = d.reads.map (·.bound)) ∧
        ((¬ ∃ p ∈ d.parameters, p.sort = .type) → asked = []) := by
  refine ⟨exists_expand_iff, ?_, ?_⟩
  · intro err
    simp only [expand_eq_error_iff, describe_eq_error_iff, FieldDeclaration.expand_eq_error_iff,
      FieldDeclaration.exists_expand_eq_ok_iff]
  · intro e h
    obtain ⟨-, ds, hd, rfl⟩ := expand_eq_ok_iff.mp h
    obtain rfl := eq_map_of_describe hd
    refine ⟨?_, ?_, _, rfl, d.filterMap_member?_stated, readBounds_stated, readBounds_of_no_type⟩
    · rw [List.forall₂_map_right_iff, List.forall₂_map_right_iff, List.forall₂_same]
      intro m _
      exact ⟨m.name_entry _, m.member?_stated⟩
    · intro hu
      simp [members, hu]

example : Sample.page.expand.map (·.implementations.map (·.bounds)) =
    .ok [["Vec < T > : :: tagcheck :: Inspect", "u32 : :: tagcheck :: Inspect"],
      ["Vec < T > : :: tagcheck :: Inspect", "u32 : :: tagcheck :: Inspect"]] := by decide

end Declaration

end FieldRules
