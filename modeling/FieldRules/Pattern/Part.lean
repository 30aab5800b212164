import FieldRules.Pattern.Anchor

set_option autoImplicit false

namespace FieldRules.Pattern

inductive Part where
  | empty
  | set (s : Charset)
  | anchor (a : Anchor)
  | join (a b : Part)
  | either (a b : Part)
  | times (a : Part) (least : Nat) (most : Option Nat)

namespace Part

def append : Part → Part → Part
  | empty, b => b
  | a, empty => a
  | a, b => join a b

def sequence (parts : List Part) : Part := parts.foldr append empty

def orElse : Part → Part → Part
  | set s, set t => set (s.union t)
  | a, b => either a b

def choice (first : Part) : List Part → Part
  | [] => first
  | part :: parts => first.orElse (choice part parts)

def isBlank : Part → Bool
  | empty => true
  | set _ => false
  | anchor _ => true
  | join a b => a.isBlank && b.isBlank
  | either a b => a.isBlank && b.isBlank
  | times a _ _ => a.isBlank

/-- Repeats a part. A second time adds nothing to the empty text, so one time is enough for it. -/
def repeated (a : Part) (least : Nat) (most : Option Nat) : Part :=
  let least := if a.isBlank then min least 1 else least
  let most := if a.isBlank then some (min (most.getD 1) 1) else most
  if most = some 0 then empty
  else if least = 1 ∧ most = some 1 then a
  else times a least most

def size : Part → Nat
  | empty => 0
  | set _ => 1
  | anchor _ => 1
  | join a b => a.size + b.size
  | either a b => a.size + b.size
  | times a least most => a.size * max 1 (most.getD least)

def hasUnicodeEdge : Part → Bool
  | anchor (.edge _ .unicode) => true
  | join a b => a.hasUnicodeEdge || b.hasUnicodeEdge
  | either a b => a.hasUnicodeEdge || b.hasUnicodeEdge
  | times a _ _ => a.hasUnicodeEdge
  | _ => false

end Part

end FieldRules.Pattern
