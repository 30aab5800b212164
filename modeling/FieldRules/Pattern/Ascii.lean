import FieldRules.Charset

set_option autoImplicit false

namespace FieldRules.Pattern

def asciiDigit : Charset := .range '0' '9'

def asciiSpace : Charset := .ofList ['\t', '\n', '\x0B', '\x0C', '\r', ' ']

def asciiUpper : Charset := .range 'A' 'Z'

def asciiLower : Charset := .range 'a' 'z'

def asciiAlpha : Charset := asciiUpper.union asciiLower

def asciiWord : Charset := .unions [asciiAlpha, asciiDigit, .ofList ['_']]

def asciiClasses : List (String × Charset) :=
  [ ("alnum", asciiAlpha.union asciiDigit),
    ("alpha", asciiAlpha),
    ("ascii", .range '\x00' '\x7F'),
    ("blank", .ofList ['\t', ' ']),
    ("cntrl", (Charset.range '\x00' '\x1F').union (.ofList ['\x7F'])),
    ("digit", asciiDigit),
    ("graph", .range '!' '~'),
    ("lower", asciiLower),
    ("print", .range ' ' '~'),
    ("punct", (Charset.range '!' '~').diff (asciiAlpha.union asciiDigit)),
    ("space", asciiSpace),
    ("upper", asciiUpper),
    ("word", asciiWord),
    ("xdigit", .unions [asciiDigit, .range 'A' 'F', .range 'a' 'f']) ]

end FieldRules.Pattern
