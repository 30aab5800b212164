import FieldRules.Pattern.Ascii
import FieldRules.Unicode.Query

set_option autoImplicit false

namespace FieldRules.Pattern

inductive Place where
  | between (before after : Option Char)
  | inside

inductive Words where
  | ascii
  | unicode
  deriving DecidableEq, Repr

def Words.set : Words → Charset
  | ascii => asciiWord
  | unicode => Unicode.wordCharacter

inductive Edge where
  | either
  | neither
  | start
  | finish
  | startHalf
  | finishHalf
  deriving DecidableEq, Repr

inductive Anchor where
  | textStart
  | textEnd
  | lineStart (crlf : Bool)
  | lineEnd (crlf : Bool)
  | edge (kind : Edge) (words : Words)
  deriving DecidableEq, Repr

def Edge.holds (before after : Bool) : Edge → Bool
  | either => before != after
  | neither => before == after
  | start => !before && after
  | finish => before && !after
  | startHalf => !before
  | finishHalf => !after

namespace Anchor

/-- Whether an anchor holds between two characters. With `crlf`, a carriage return and the line feed
behind it end one line together. -/
def holdsBetween (before after : Option Char) : Anchor → Bool
  | textStart => before.isNone
  | textEnd => after.isNone
  | lineStart false => before.all (· == '\n')
  | lineStart true =>
    before.all fun c => c == '\n' || (c == '\r' && !after.any (· == '\n'))
  | lineEnd false => after.all (· == '\n')
  | lineEnd true =>
    after.all fun c => c == '\r' || (c == '\n' && !before.any (· == '\r'))
  | edge kind words => kind.holds (before.any words.set.has) (after.any words.set.has)

/-- Whether an anchor holds inside a character. The bytes on both sides belong to no ASCII word. All
other conditions are about whole characters and do not hold. -/
def holdsInside : Anchor → Bool
  | edge kind .ascii => kind.holds false false
  | _ => false

def holds : Place → Anchor → Bool
  | .between before after => holdsBetween before after
  | .inside => holdsInside

end Anchor

end FieldRules.Pattern
