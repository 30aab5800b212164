import FieldRules.Text.Blank

set_option autoImplicit false

namespace FieldRules.Pattern

def skipBlanks (comment : Bool) : List Char → List Char
  | [] => []
  | c :: s =>
    if comment then skipBlanks (c != '\n') s
    else if Text.isBlank c then skipBlanks false s
    else if c = '#' then skipBlanks true s
    else c :: s

def skipSpace (spaced : Bool) (s : List Char) : List Char :=
  if spaced then skipBlanks false s else s

/-- The characters up to `stop` and those behind it. In a spaced pattern blanks and comments are not
among the former, and a comment may hide a `stop`. -/
def upTo? (stop : Char) (spaced comment : Bool) : List Char → Option (List Char × List Char)
  | [] => none
  | c :: s =>
    if comment then upTo? stop spaced (c != '\n') s
    else if spaced && Text.isBlank c then upTo? stop spaced false s
    else if spaced && c == '#' then upTo? stop spaced true s
    else if c = stop then some ([], s)
    else (upTo? stop spaced false s).map fun (t, rest) => (c :: t, rest)

end FieldRules.Pattern
