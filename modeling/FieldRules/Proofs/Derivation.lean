import FieldRules.Sample
import FieldRules.Proofs.Descriptors
import FieldRules.Proofs.FlatTrace
import FieldRules.Proofs.Options
import FieldRules.Proofs.Reference

/-!
Records of declared types. Main statement: such a record is validated as the one written by hand
with only those fields that everyone may read and that have a tag, in the order of the declaration,
under the names that their attributes or else their identifiers give them. No other member is ever
read.
-/

set_option autoImplicit false

namespace FieldRules

namespace FieldDeclaration

def items (m : FieldDeclaration) : List AttributeItem := m.attributes.flatMap Attribute.items

def tag? (m : FieldDeclaration) : Option String := m.items.findSome? AttributeItem.tag?

def name? (m : FieldDeclaration) : Option String := m.items.findSome? AttributeItem.name?

def Read (m : FieldDeclaration) : Prop := m.visibility = .everyone ∧ m.tag?.isSome = true

/-- The field by which a record written by hand has a declared member. -/
def written? (member : String → Value) (m : FieldDeclaration) : Option (Field Value) :=
  match m.visibility, m.tag? with
  | .everyone, some tag => some (.shown (m.name?.getD (unraw m.ident)) tag (member m.ident))
  | _, _ => none

/-- Members that a record cannot tell apart: one that has the same contents, or two that are not
read, whatever their names, tags and contents. -/
inductive Alike (member member' : String → Value) : FieldDeclaration → FieldDeclaration → Prop where
  | same {m : FieldDeclaration} (h : member m.ident = member' m.ident) : Alike member member' m m
  | unread {m m' : FieldDeclaration} (h : ¬ m.Read) (h' : ¬ m'.Read) : Alike member member' m m'

end FieldDeclaration

def Declaration.written (d : Declaration) (member : String → Value) : List (Field Value) :=
  d.members.filterMap (·.written? member)

namespace FieldDeclaration

theorem options_of_ofAttributes {m : FieldDeclaration} {o : FieldOptions}
    (h : FieldOptions.ofAttributes m.attributes = .ok o) : o.tag = m.tag? ∧ o.name = m.name? := by
  obtain ⟨-, -, -, htags, hnames⟩ := FieldOptions.ofAttributes_eq_ok_iff.mp h
  have ht : m.tag? = (Attribute.tags m.attributes).head? := List.head?_filterMap.symm
  have hn : m.name? = (Attribute.names m.attributes).head? := List.head?_filterMap.symm
  rw [ht, hn, htags, hnames, Option.head?_toList, Option.head?_toList]
  exact ⟨rfl, rfl⟩

/-- The entry for which the visibility, the tag and the name of a member ask. -/
def stated (m : FieldDeclaration) : FieldEntry := m.entry ⟨m.tag?, m.name?⟩

theorem eq_stated_of_expand {m : FieldDeclaration} {x : FieldEntry} (h : m.expand = .ok x) :
    x = m.stated := by
  obtain ⟨o, ho, rfl⟩ := expand_eq_ok_iff.mp h
  obtain ⟨ht, hn⟩ := options_of_ofAttributes ho
  rw [stated, ← ht, ← hn]

theorem field_stated_congr {member member' : String → Value} {m : FieldDeclaration}
    (h : m.Read → member m.ident = member' m.ident) :
    m.stated.descriptor.field .sealed member = m.stated.descriptor.field .sealed member' := by
  unfold stated entry
  split
  · rename_i tag hv ht
    have hr : m.Read := ⟨hv, Option.isSome_of_eq_some ht⟩
    rw [Descriptor.field, Descriptor.field, h hr]
  · rfl
  · rfl

theorem written?_of_not_read {m : FieldDeclaration} (h : ¬ m.Read) (member : String → Value) :
    m.written? member = none := by
  unfold written?
  split
  · rename_i hv ht
    exact absurd ⟨hv, Option.isSome_of_eq_some ht⟩ h
  · rfl

theorem Alike.written?_eq {member member' : String → Value} {m m' : FieldDeclaration}
    (h : Alike member member' m m') : m.written? member = m'.written? member' := by
  cases h with
  | same h => rw [written?, written?, h]
  | unread h h' => rw [written?_of_not_read h, written?_of_not_read h']

theorem filterMap_written?_eq {member member' : String → Value} {ms ms' : List FieldDeclaration}
    (h : List.Forall₂ (Alike member member') ms ms') :
    ms.filterMap (·.written? member) = ms'.filterMap (·.written? member') := by
  induction h with
  | nil => rfl
  | cons hm _ ih => rw [List.filterMap_cons, List.filterMap_cons, hm.written?_eq, ih]

end FieldDeclaration

namespace Declaration

theorem eq_map_of_describe {fs : List FieldDeclaration} {ds : List FieldEntry}
    (h : describe fs = .ok ds) : ds = fs.map FieldDeclaration.stated := by
  have hs : List.Forall₂ (fun m x => m.stated = x) fs ds :=
    (describe_eq_ok_iff.mp h).imp fun _ _ hx => (FieldDeclaration.eq_stated_of_expand hx).symm
  have he : List.Forall₂ Eq (fs.map FieldDeclaration.stated) ds :=
    List.forall₂_map_left_iff.mpr hs
  rw [List.forall₂_eq_eq_eq] at he
  exact he.symm

theorem expand_eq_ok {d : Declaration} {e : Expansion} (h : d.expand = .ok e) :
    e.typeName = unraw d.ident ∧ e.descriptors = d.members.map (·.stated.descriptor) := by
  obtain ⟨-, ds, hd, rfl⟩ := expand_eq_ok_iff.mp h
  obtain rfl := eq_map_of_describe hd
  exact ⟨rfl, List.map_map⟩

theorem fields_of_expand {d : Declaration} {e : Expansion} (h : d.expand = .ok e)
    (member : String → Value) :
    e.fields .sealed member = d.members.map fun m => m.stated.descriptor.field .sealed member := by
  rw [Expansion.fields, (expand_eq_ok h).2, List.map_map]
  rfl

end Declaration

namespace Registry

variable (g : Registry)

theorem traceField_stated (typeName : String) (member : String → Value) (m : FieldDeclaration) :
    g.traceField typeName (m.stated.descriptor.field .sealed member) =
      (m.written? member).toList.flatMap (g.traceField typeName) := by
  unfold FieldDeclaration.stated FieldDeclaration.entry FieldDeclaration.written?
  rcases m.visibility with _ | scope | _
  · rcases m.tag? with _ | tag
    · -- an untagged field is visible, but the empty tag has no rules
      exact g.traceField_of_blank typeName Tag.parse_empty
    · exact (List.append_nil _).symm
  · exact g.traceField_of_hidden typeName rfl
  · exact g.traceField_of_hidden typeName rfl

theorem traceFields_of_expand {d : Declaration} {e : Expansion} (h : d.expand = .ok e)
    (typeName : String) (member : String → Value) :
    g.traceFields typeName (e.fields .sealed member) =
      g.traceFields typeName (d.written member) := by
  rw [Declaration.fields_of_expand h, Declaration.written, traceFields_eq_flatMap,
    traceFields_eq_flatMap, List.flatMap_map, List.filterMap_eq_flatMap_toList, List.flatMap_assoc]
  simp only [g.traceField_stated typeName member]

theorem validate_of_expand {d : Declaration} {e : Expansion} (h : d.expand = .ok e)
    (member : String → Value) :
    g.validate (.record e.typeName (e.fields .sealed member)) =
      g.validate (.record (unraw d.ident) (d.written member)) := by
  rw [validate_record, validate_record, g.traceFields_of_expand h, (Declaration.expand_eq_ok h).1]

/-- A record of a declared type is validated as the one written by hand. Only the members that are
read have a part in it: the fields hold nothing of the others, and a declaration with others in
their places, of any names, tags and contents, leads to the same. -/
theorem validate_expansion {d : Declaration} {e : Expansion} (h : d.expand = .ok e)
    (member : String → Value) :
    g.validate (.record e.typeName (e.fields .sealed member)) =
        g.validate (.record (unraw d.ident) (d.written member)) ∧
      (∀ member', (∀ m ∈ d.members, m.Read → member m.ident = member' m.ident) →
        e.fields .sealed member = e.fields .sealed member') ∧
      (∀ (d' : Declaration) (e' : Expansion) member',
        d'.expand = .ok e' → unraw d'.ident = unraw d.ident →
        List.Forall₂ (FieldDeclaration.Alike member member') d.members d'.members →
        g.validate (.record e'.typeName (e'.fields .sealed member')) =
          g.validate (.record e.typeName (e.fields .sealed member))) := by
  refine ⟨g.validate_of_expand h member, ?_, ?_⟩
  · intro member' hm
    rw [Declaration.fields_of_expand h, Declaration.fields_of_expand h]
    exact List.map_congr_left fun m hd => FieldDeclaration.field_stated_congr (hm m hd)
  · intro d' e' member' h' hi hm
    have hw : d'.written member' = d.written member :=
      (FieldDeclaration.filterMap_written?_eq hm).symm
    rw [g.validate_of_expand h' member', g.validate_of_expand h member, hi, hw]

def ticket (ident tag : String) : Declaration := Sample.record "r#Ticket"
  [⟨.everyone, "String", "r#type", [⟨Attribute.optionsPath, .list [.keyed "rules" "in:a,b"]⟩,
      ⟨"doc", .nameValue "What it is for."⟩,
      ⟨Attribute.optionsPath, .list [.keyed "name" "Kind"]⟩]⟩,
    Sample.shown "note" "String" [],
    ⟨.within "crate", "u8", "age", [⟨Attribute.optionsPath, .list [.bare "min:18"]⟩]⟩,
    Sample.kept ident "String" tag]

theorem validate_expansion_ticket :
    let member : String → Value := fun ident => if ident = "r#type" then .string "c" else .int 1
    let d := ticket "seal" "a||b"
    let d' := ticket "r#key" "len:3"
    let g := standard Engine.words
    ∃ e e', d.expand = .ok e ∧ d'.expand = .ok e' ∧
      g.validate (.record e.typeName (e.fields .sealed member)) =
        g.validate (.record "Ticket" [.shown "Kind" "in:a,b" (.string "c")]) ∧
      g.validate (.record e'.typeName (e'.fields .sealed member)) =
        g.validate (.record e.typeName (e.fields .sealed member)) := by
  intro member d d' g
  obtain ⟨e, he⟩ : ∃ e, d.expand = .ok e := ⟨_, rfl⟩
  obtain ⟨e', he'⟩ : ∃ e, d'.expand = .ok e := ⟨_, rfl⟩
  have hn : unraw d.ident = "Ticket" := by decide
  have hw : d.written member = [.shown "Kind" "in:a,b" (.string "c")] := by rfl
  have hr : ∀ ident tag, ¬ (Sample.kept ident "String" tag).Read := by
    simp [FieldDeclaration.Read, Sample.kept]
  have hm : List.Forall₂ (FieldDeclaration.Alike member member) d.members d'.members :=
    .cons (.same rfl) (.cons (.same rfl) (.cons (.same rfl)
      (.cons (.unread (hr "seal" "a||b") (hr "r#key" "len:3")) .nil)))
  obtain ⟨h, -, h'⟩ := validate_expansion g he member
  rw [hn, hw] at h
  exact ⟨e, e', he, he', h, h' d' e' member he' rfl hm⟩

end Registry

end FieldRules
