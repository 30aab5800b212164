import FieldRules.Pattern.Part

set_option autoImplicit false

namespace FieldRules.Pattern

/-- A regular expression. One character of a text matches `one`, whose mark says that a match in
progress has just reached it. -/
inductive Node where
  | empty
  | anchor (a : Anchor)
  | one (reached : Bool) (set : Charset)
  | seq (a b : Node)
  | alt (a b : Node)
  | many (a : Node)

namespace Node

def join : Node → Node → Node
  | empty, b => b
  | a, empty => a
  | a, b => seq a b

def optional (a : Node) : Node := alt empty a

def star (a : Node) : Node := alt empty (many a)

def powerOfBits (a : Node) : Nat → Nat → Node
  | 0, _ => empty
  | bits + 1, n =>
    if n = 0 then empty
    else
      let half := powerOfBits a bits (n / 2)
      if n % 2 = 0 then join half half else join a (join half half)

def power (a : Node) (n : Nat) : Node := powerOfBits a (n.log2 + 1) n

def repeated (a : Node) (least : Nat) : Option Nat → Node
  | none => if least = 0 then star a else join (power a (least - 1)) (many a)
  | some most => join (power a least) (power (optional a) (most - least))

def ofPart : Part → Node
  | .empty => empty
  | .set s => one false s
  | .anchor a => anchor a
  | .join a b => join (ofPart a) (ofPart b)
  | .either a b => alt (ofPart a) (ofPart b)
  | .times a least most => (ofPart a).repeated least most

end Node

end FieldRules.Pattern
