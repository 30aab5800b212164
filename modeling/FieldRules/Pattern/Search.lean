import FieldRules.Pattern.Node

/-!
Search for a match. The characters of the expression that a match has reached are marked, and each
character of the text moves the marks on, so a text is read once, whatever the expression.

A text is searched byte by byte. Where the expression matches nothing at all inside a character, the
search takes that place for a match. It is none, and the search begins again behind the character,
without the marks; an exact search keeps them.
-/

set_option autoImplicit false

namespace FieldRules.Pattern.Node

def nullable (p : Place) : Node → Bool
  | empty => true
  | anchor a => a.holds p
  | one _ _ => false
  | seq a b => a.nullable p && b.nullable p
  | alt a b => a.nullable p || b.nullable p
  | many a => a.nullable p

def finished (p : Place) : Node → Bool
  | empty => false
  | anchor _ => false
  | one reached _ => reached
  | seq a b => (a.finished p && b.nullable p) || b.finished p
  | alt a b => a.finished p || b.finished p
  | many a => a.finished p

/-- The marks behind one more character of the text. A match may also `enter` the expression at the
place before that character. -/
def advance (p : Place) (c : Char) (enter : Bool) : Node → Node
  | empty => empty
  | anchor a => anchor a
  | one _ s => one (enter && s.has c) s
  | seq a b =>
    seq (a.advance p c enter) (b.advance p c ((enter && a.nullable p) || a.finished p))
  | alt a b => alt (a.advance p c enter) (b.advance p c enter)
  | many a => many (a.advance p c (enter || a.finished p))

def endsAt (p : Place) (a : Node) : Bool := a.nullable p || a.finished p

def isWide (c : Char) : Bool := decide (1 < c.utf8Size)

/-- Whether a match ends somewhere in the rest of a text. A match may begin anywhere. The marks are
those of `a`, and `fresh` has none. -/
def foundFrom (exact : Bool) (fresh a : Node) (before : Option Char) : List Char → Bool
  | [] => a.endsAt (.between before none)
  | c :: rest =>
    let p : Place := .between before (some c)
    let restarts := !exact && isWide c && fresh.nullable .inside
    a.endsAt p ||
      foundFrom exact fresh (if restarts then fresh else a.advance p c true) (some c) rest

def foundIn (exact : Bool) (a : Node) (text : List Char) : Bool := foundFrom exact a a none text

end FieldRules.Pattern.Node
