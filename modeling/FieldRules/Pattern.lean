import FieldRules.Engine
import FieldRules.Pattern.Reader
import FieldRules.Pattern.Search

/-!
An engine to run: regular expressions that a text matches if some part of it does. It bounds the
size of a pattern in a way of its own, and of a text that is no pattern it does not say why. No
statement about checks and registries rests on it, since they hold for every engine.
-/

set_option autoImplicit false

namespace FieldRules

attribute [local instance (high)] instPowNat

/-- Edges of words of all characters make the search of a short text exact. -/
structure Pattern where
  node : Pattern.Node
  unicodeEdges : Bool

namespace Pattern

def sizeLimit : Nat := 2 ^ (22 : Nat)

def compile (source : String) : Option Pattern := do
  let st ← State.initial.read 0 source.toList
  let part ← st.complete
  if sizeLimit < part.size then none
  return ⟨.ofPart part, part.hasUnicodeEdge⟩

def shortText : Nat := 128

def search (p : Pattern) (text : String) : Bool :=
  p.node.foundIn (p.unicodeEdges && decide (text.utf8ByteSize ≤ shortText)) text.toList

def engine : Engine where
  Compiled := Pattern
  compile source := match compile source with
    | some p => .ok p
    | none => .error ""
  search := search

def found? (source text : String) : Option Bool := (compile source).map fun p => p.search text

example : found? "b" "abc" = some true := by decide

example : found? "^(ab|c)+$" "abcab" = some true := by decide

example : found? "^a\x7B2,3\x7D$" "aaaa" = some false := by decide

example : found? "[a-c&&[^b]]" "b" = some false := by decide

example : found? "(?m)^b$" "a\nb\nc" = some true := by decide

example : found? "[c-a]" "b" = none := by decide

example : found? "(?:^|$)\x7B4000000000\x7D" "a" = some true := by decide

example : found? "ß|(?-u:\\B)" "ß" = some true := by decide

example : found? "ß|(?-u:\\B)" "aßa" = some false := by decide

end Pattern

end FieldRules
