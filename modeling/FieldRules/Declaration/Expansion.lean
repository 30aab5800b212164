import FieldRules.Declaration.Options
import FieldRules.Value

/-!
Expansion of a declaration: one descriptor for every field, in order, and the two implementations
that make a record of the type. A field is read only if everyone may read it and it has a tag. An
implementation asks of a parametrized type that the types of the fields it reads can be inspected.
-/

set_option autoImplicit false

namespace FieldRules

inductive Descriptor where
  | shown (name tag member : String)
  | untagged (name : String)
  | hidden (name tag : String)
  deriving DecidableEq, Repr

namespace Descriptor

def name : Descriptor → String
  | shown name _ _ => name
  | untagged name => name
  | hidden name _ => name

/-- The field that a descriptor makes when members have the given contents. Only a shown field
reads its member; `blank` stands for contents that are not read. -/
def field {α : Type} (blank : α) (member : String → α) : Descriptor → Field α
  | shown name tag ident => ⟨name, tag, true, member ident⟩
  | untagged name => ⟨name, "", true, blank⟩
  | hidden name tag => ⟨name, tag, false, blank⟩

end Descriptor

/-- A field with its descriptor. It is inspected if the descriptor reads it. -/
structure FieldEntry where
  field : FieldDeclaration
  descriptor : Descriptor
  inspected : Bool
  deriving DecidableEq, Repr

inductive Capability where
  | record | inspect
  deriving DecidableEq, Repr

def Capability.name : Capability → String
  | record => "Record"
  | inspect => "Inspect"

structure Implementation where
  capability : Capability
  parameters : List String
  target : String
  bounds : List String
  deriving DecidableEq, Repr

structure Expansion where
  typeName : String
  descriptors : List Descriptor
  implementations : List Implementation
  deriving DecidableEq, Repr

namespace FieldDeclaration

def entry (d : FieldDeclaration) (o : FieldOptions) : FieldEntry :=
  let name := o.name.getD (unraw d.ident)
  match d.visibility, o.tag with
  | .everyone, some tag => ⟨d, .shown name tag d.ident, true⟩
  | .everyone, none => ⟨d, .untagged name, false⟩
  | _, tag => ⟨d, .hidden name (tag.getD ""), false⟩

def expand (d : FieldDeclaration) : Except DeclarationError FieldEntry :=
  (FieldOptions.ofAttributes d.attributes).map d.entry

def bound (d : FieldDeclaration) : String := d.type ++ " : :: tagcheck :: Inspect"

end FieldDeclaration

namespace Declaration

def recordFields (d : Declaration) : Except DeclarationError (List FieldDeclaration) :=
  match d.shape with
  | .named => .ok d.fields
  | .unit => .ok []
  | .tuple => .error .tupleStruct
  | .enumeration => .error .notStruct
  | .union => .error .notStruct

def describe : List FieldDeclaration → Except DeclarationError (List FieldEntry)
  | [] => .ok []
  | f :: fs => match f.expand with
    | .error e => .error e
    | .ok x => (describe fs).map (x :: ·)

def target (d : Declaration) : String :=
  match d.ordered.map Parameter.name with
  | [] => d.ident
  | names => d.ident ++ " < " ++ " , ".intercalate names ++ " >"

def readBounds (d : Declaration) (xs : List FieldEntry) : List String :=
  if d.parameters.any fun p => p.sort == .type then
    (xs.filter (·.inspected)).map fun x => x.field.bound
  else []

def implementation (d : Declaration) (bounds : List String) (c : Capability) : Implementation :=
  ⟨c, d.ordered.map Parameter.printed, d.target, bounds⟩

def expand (d : Declaration) : Except DeclarationError Expansion :=
  match d.recordFields with
  | .error e => .error e
  | .ok fs => match describe fs with
    | .error e => .error e
    | .ok xs =>
      let bounds := d.bounds ++ d.readBounds xs
      .ok ⟨unraw d.ident, xs.map FieldEntry.descriptor,
        [d.implementation bounds .record, d.implementation bounds .inspect]⟩

end Declaration

namespace Expansion

def fields {α : Type} (e : Expansion) (blank : α) (member : String → α) : List (Field α) :=
  e.descriptors.map fun d => d.field blank member

end Expansion

end FieldRules
