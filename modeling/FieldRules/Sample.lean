import FieldRules.Datum
import FieldRules.Declaration.Expansion

/-!
Sample record types. They are given as declarations, and their records come from the expansions: a
user with contact data, a product whose fields are renamed, teams with nested users, and pages of
any item.
-/

set_option autoImplicit false

namespace FieldRules.Sample

def shown (ident type : String) (items : List AttributeItem) : FieldDeclaration :=
  ⟨.everyone, type, ident, if items.isEmpty then [] else [⟨Attribute.optionsPath, .list items⟩]⟩

def kept (ident type tag : String) : FieldDeclaration :=
  ⟨.owner, type, ident, [⟨Attribute.optionsPath, .list [.bare tag]⟩]⟩

def record (ident : String) (fields : List FieldDeclaration) : Declaration :=
  ⟨.named, ident, [], [], fields⟩

def user : Declaration := record "User"
  [shown "id" "String" [.bare "len:36"],
    shown "name" "String" [],
    shown "age" "i32" [.bare "min:18|max:50"],
    shown "email" "String" [.bare "regexp:^\\w+@\\w+\\.\\w+$"],
    shown "role" "UserRole" [.bare "in:admin,stuff"],
    shown "phones" "Vec < String >" [.bare "len:11"],
    kept "meta" "RawMessage" "len:1000"]

def app : Declaration := record "App"
  [shown "name" "String" [.bare "min:5"], shown "version" "String" [.bare "len:5"]]

def product : Declaration := record "Product"
  [shown "price" "f32" [.bare "min:1"],
    shown "name" "String" [.bare "len:10", .keyed "name" "Title"],
    shown "r#type" "Option < String >" [.keyed "rules" "in:a,b", .keyed "name" "Kind"],
    shown "r#match" "String" [.bare "len:2"]]

def team : Declaration := record "Team"
  [shown "code" "String" [.bare "len:3"],
    shown "members" "Vec < User >" [.bare "nested"],
    shown "lead" "Option < User >" [.bare "nested"],
    shown "founder" "Option < User >" [.bare "min:1"],
    shown "app" "Option < App >" [.bare "min:1|nested"]]

def page : Declaration :=
  ⟨.named, "Page", [Parameter.ofText "T"], [],
    [shown "items" "Vec < T >" [.bare "nested"],
      shown "size" "u32" [.bare "max:100"],
      kept "cursor" "T" "rule:cond"]⟩

def emptyStruct : Declaration := ⟨.unit, "EmptyStruct", [], [], []⟩

/-- The record of a declared type with the given members. A declaration that has no expansion has
only a sealed record. -/
def datum (d : Declaration) (member : String → Datum) : Datum :=
  match d.expand with
  | .ok e => .record e.typeName (e.fields .sealed member)
  | .error _ => .sealed

def members (ms : List (String × Datum)) (ident : String) : Datum :=
  (ms.lookup ident).getD .sealed

end FieldRules.Sample
