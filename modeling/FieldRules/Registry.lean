import FieldRules.Check.BuiltIn

/-!
Registries: which check a rule name stands for, for each kind of value. Every check is filed under
the kind that it judges, so a check found for a kind fits all values of that kind, and of two checks
under one name and kind the later one counts.
-/

set_option autoImplicit false

namespace FieldRules

structure Registration where
  name : String
  check : Check

namespace Registration

def kind (e : Registration) : Kind := e.check.kind

def ofBuiltIn (engine : Engine) (b : BuiltIn) : Registration := ⟨b.ruleName, b.check engine⟩

end Registration

/-- A history of registrations, the latest first. -/
structure Registry where
  entries : List Registration

namespace Registry

def empty : Registry := ⟨[]⟩

instance : EmptyCollection Registry := ⟨empty⟩

def register (g : Registry) (name : String) (check : Check) : Registry :=
  ⟨⟨name, check⟩ :: g.entries⟩

def registerAll (g : Registry) (es : List Registration) : Registry := ⟨es.reverse ++ g.entries⟩

/-- Registers the built-in checks, over whatever has their names. -/
def withStandard (engine : Engine) (g : Registry) : Registry :=
  g.registerAll (BuiltIn.all.map (Registration.ofBuiltIn engine))

def standard (engine : Engine) : Registry := empty.withStandard engine

inductive Step where
  | rule (name : String) (check : Check)
  | standard

def Step.registrations (engine : Engine) : Step → List Registration
  | rule name check => [⟨name, check⟩]
  | standard => BuiltIn.all.map (Registration.ofBuiltIn engine)

def history (engine : Engine) (steps : List Step) : List Registration :=
  steps.flatMap (Step.registrations engine)

def step (engine : Engine) (g : Registry) : Step → Registry
  | .rule name check => g.register name check
  | .standard => g.withStandard engine

def ofSteps (engine : Engine) (steps : List Step) : Registry := steps.foldl (step engine) empty

def ofKind (g : Registry) (kind : Kind) : List Registration :=
  g.entries.filter fun e => e.kind == kind

/-- The check that counts for a kind and a rule name. -/
def find? (g : Registry) (kind : Kind) (rule : String) : Option Check :=
  ((g.ofKind kind).find? fun e => e.name == rule).map Registration.check

def lookup (g : Registry) (kind : Kind) (rule : String) : Except Fault Check :=
  match g.find? kind rule with
  | some check => .ok check
  | none =>
    if (g.ofKind kind).isEmpty then .error (.kindHasNoRules kind)
    else .error (.unknownRule kind rule)

def contains (g : Registry) (kind : Kind) (rule : String) : Bool := (g.find? kind rule).isSome

def kinds (g : Registry) : List Kind := Kind.all.filter fun k => !(g.ofKind k).isEmpty

def insertName (name : String) : List String → List String
  | [] => [name]
  | m :: ms =>
    if name < m then name :: m :: ms
    else if name = m then m :: ms
    else m :: insertName name ms

/-- The rule names of a kind, each once, in the order of their characters. -/
def ruleNames (g : Registry) (kind : Kind) : List String :=
  (g.ofKind kind).foldr (fun e names => insertName e.name names) []

theorem entries_register (g : Registry) (name : String) (check : Check) :
    (g.register name check).entries = ⟨name, check⟩ :: g.entries := rfl

theorem entries_registerAll (g : Registry) (es : List Registration) :
    (g.registerAll es).entries = es.reverse ++ g.entries := rfl

theorem step_eq_registerAll (engine : Engine) (g : Registry) (s : Step) :
    g.step engine s = g.registerAll (s.registrations engine) := by
  cases s <;> rfl

end Registry

end FieldRules
