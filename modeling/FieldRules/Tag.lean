import FieldRules.Fault
import FieldRules.Text.Blank
import FieldRules.Text.Pieces

/-!
Tags, the written form of a field's rules. Rules are separated by `|`, and a rule is its name, a
colon and its condition, or the bare word that marks nested records. Blanks around the whole tag do
not count; inside they do, since conditions may depend on them.
-/

set_option autoImplicit false

namespace FieldRules

/-- A rule as a tag has it: which check to run, and with which condition. -/
structure Rule where
  name : String
  condition : String
  deriving DecidableEq, Repr

namespace Rule

def nestedName : String := "nested"

/-- The rule that a bare `nested` stands for. -/
def nested : Rule := ⟨nestedName, ""⟩

def isNested (r : Rule) : Bool := r.name == nestedName

def render (r : Rule) : List Char :=
  if r = nested then nestedName.toList else r.name.toList ++ ':' :: r.condition.toList

/-- Reads one piece of a tag; `tag` is the whole of it, for the message. -/
def parse (tag piece : List Char) : Except Fault Rule :=
  if piece = [] then .error (.emptyRule (String.ofList tag))
  else if piece = nestedName.toList then .ok nested
  else match Text.pieces ':' piece with
    | [name, condition] => .ok ⟨String.ofList name, String.ofList condition⟩
    | _ => .error (.malformedRule (String.ofList piece))

end Rule

namespace Tag

def parsePieces (tag : List Char) : List (List Char) → Except Fault (List Rule)
  | [] => .ok []
  | p :: ps => match Rule.parse tag p with
    | .error f => .error f
    | .ok r => (parsePieces tag ps).map (r :: ·)

def parseTrimmed (tag : List Char) : Except Fault (List Rule) :=
  if tag = [] then .ok [] else parsePieces tag (Text.pieces '|' tag)

/-- The rules of a tag, in order. A blank tag has none. -/
def parse (tag : String) : Except Fault (List Rule) := parseTrimmed (Text.trim tag.toList)

def render (rs : List Rule) : String := String.ofList (Text.joined '|' (rs.map Rule.render))

theorem parse_empty : parse "" = .ok [] := rfl

end Tag

structure RuleSet where
  field : String
  rules : List Rule
  deriving DecidableEq, Repr

namespace RuleSet

def ofTag (field tag : String) : Except Fault RuleSet := (Tag.parse tag).map fun rs => ⟨field, rs⟩

def size (s : RuleSet) : Nat := s.rules.length

def isEmpty (s : RuleSet) : Bool := s.rules.isEmpty

def hasNested (s : RuleSet) : Bool := s.rules.any Rule.isNested

end RuleSet

end FieldRules
