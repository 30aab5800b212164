import FieldRules.Text.Pieces

/-!
Declarations of record types as data: an item with its parameters and fields, every field with a
visibility, the text of its type and the attributes written on it. Identifiers may be raw, that is
begin with `r#`, which is no part of the name they stand for.
-/

set_option autoImplicit false

namespace FieldRules

/-- What is declared. Only the first two shapes have a meaning as records. -/
inductive Shape where
  | named | unit | tuple | enumeration | union
  deriving DecidableEq, Repr

inductive Visibility where
  | everyone | within (scope : String) | owner
  deriving DecidableEq, Repr

/-- An item in the parentheses of an attribute: a bare text, or a text under a key. -/
inductive AttributeItem where
  | bare (text : String)
  | keyed (key text : String)
  deriving DecidableEq, Repr

inductive AttributeForm where
  | path
  | nameValue (value : String)
  | list (items : List AttributeItem)
  deriving DecidableEq, Repr

structure Attribute where
  path : String
  form : AttributeForm
  deriving DecidableEq, Repr

structure FieldDeclaration where
  visibility : Visibility
  type : String
  ident : String
  attributes : List Attribute
  deriving DecidableEq, Repr

inductive ParameterSort where
  | lifetime | type | constant
  deriving DecidableEq, Repr

structure Parameter where
  sort : ParameterSort
  name : String
  text : String
  deriving DecidableEq, Repr

structure Declaration where
  shape : Shape
  ident : String
  parameters : List Parameter
  bounds : List String
  fields : List FieldDeclaration
  deriving DecidableEq, Repr

def unraw (ident : String) : String :=
  match ident.toList with
  | 'r' :: '#' :: s => String.ofList s
  | _ => ident

def Parameter.ofText (text : String) : Parameter :=
  let word (s : List Char) := String.ofList (s.takeWhile (· != ' '))
  match text.toList with
  | '\'' :: s => ⟨.lifetime, word ('\'' :: s), text⟩
  | 'c' :: 'o' :: 'n' :: 's' :: 't' :: ' ' :: s => ⟨.constant, word s, text⟩
  | s => ⟨.type, word s, text⟩

def angleDepth (depth : Nat) (token : List Char) : Nat :=
  if token = ['-', '>'] then depth else depth + token.count '<' - token.count '>'

/-- The tokens of a parameter before its default. An equality sign in angle brackets begins none. -/
def beforeDefault (depth : Nat) : List (List Char) → List (List Char)
  | [] => []
  | token :: tokens =>
    if depth = 0 ∧ token = ['='] then []
    else token :: beforeDefault (angleDepth depth token) tokens

/-- The text of a parameter where it can have no default. -/
def Parameter.printed (p : Parameter) : String :=
  .ofList (Text.joined ' ' (beforeDefault 0 (Text.pieces ' ' p.text.toList)))

/-- The parameters in the order of an implementation, lifetimes first. -/
def Declaration.ordered (d : Declaration) : List Parameter :=
  let (lifetimes, others) := d.parameters.partition fun p => p.sort == .lifetime
  lifetimes ++ others

example : unraw "r#type" = "type" := by decide

example : Parameter.ofText "const N : usize" = ⟨.constant, "N", "const N : usize"⟩ := by decide

example : (Parameter.ofText "T : Fn < A = u8 > = F").printed = "T : Fn < A = u8 >" := by decide

end FieldRules
