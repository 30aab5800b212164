import FieldRules.Declaration

/-!
The options of a field: the rule tag and the name that its attributes give it. All attributes with
the path `validate` count together, as one list of items, and the first item out of place is the
error.
-/

set_option autoImplicit false

namespace FieldRules

inductive DeclarationError where
  | notStruct
  | tupleStruct
  | misusedAttribute
  | duplicateTag
  | duplicateName
  | emptyName
  | unknownKey (key : String)
  deriving DecidableEq, Repr

def DeclarationError.message : DeclarationError → String
  | notStruct => "`Record` can only be derived for structs"
  | tupleStruct =>
    "`Record` requires a struct with named fields (e.g. `struct X \x7b ... \x7d`)"
  | misusedAttribute =>
    "expected #[validate(\"rule:condition\")] or #[validate(rules = \"...\")]"
  | duplicateTag => "duplicate rule tag; write all rules in one tag joined with `|`"
  | duplicateName => "duplicate `name`"
  | emptyName => "`name` cannot be empty"
  | unknownKey key => "unknown `validate` key `" ++ key ++ "`, expected `rules` or `name`"

instance : ToString DeclarationError := ⟨DeclarationError.message⟩

structure FieldOptions where
  tag : Option String
  name : Option String
  deriving DecidableEq, Repr

namespace FieldOptions

def none : FieldOptions := ⟨.none, .none⟩

def setTag (o : FieldOptions) (text : String) : Except DeclarationError FieldOptions :=
  if o.tag.isSome then .error .duplicateTag else .ok { o with tag := some text }

/-- A second name is an error before an empty one. -/
def setName (o : FieldOptions) (text : String) : Except DeclarationError FieldOptions :=
  if o.name.isSome then .error .duplicateName
  else if text = "" then .error .emptyName
  else .ok { o with name := some text }

end FieldOptions

/-- What an attribute contributes: an item, or the mistake of not having the form of a list. -/
inductive Mark where
  | item (i : AttributeItem)
  | misuse
  deriving DecidableEq, Repr

namespace Mark

def apply (o : FieldOptions) : Mark → Except DeclarationError FieldOptions
  | item (.bare text) => o.setTag text
  | item (.keyed key text) =>
    if key = "rules" then o.setTag text
    else if key = "name" then o.setName text
    else .error (.unknownKey key)
  | misuse => .error .misusedAttribute

def applyAll (o : FieldOptions) : List Mark → Except DeclarationError FieldOptions
  | [] => .ok o
  | m :: ms => match m.apply o with
    | .error e => .error e
    | .ok o => applyAll o ms

theorem applyAll_append (o : FieldOptions) (ms ns : List Mark) :
    applyAll o (ms ++ ns) = (applyAll o ms).bind fun p => applyAll p ns := by
  induction ms generalizing o with
  | nil => rfl
  | cons m ms ih =>
    simp only [List.cons_append, applyAll]
    cases m.apply o with
    | error e => rfl
    | ok p => exact ih p

end Mark

namespace Attribute

def optionsPath : String := "validate"

def marks (a : Attribute) : List Mark :=
  if a.path = optionsPath then
    match a.form with
    | .list items => items.map Mark.item
    | .path => [.misuse]
    | .nameValue _ => [.misuse]
  else []

end Attribute

def FieldOptions.ofAttributes (as : List Attribute) : Except DeclarationError FieldOptions :=
  Mark.applyAll .none (as.flatMap Attribute.marks)

end FieldRules
