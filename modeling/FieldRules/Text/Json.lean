import FieldRules.Text.Pieces

set_option autoImplicit false

namespace FieldRules.Text.Json

def hexDigit (n : Nat) : Char :=
  if n < 10 then Char.ofNat (0x30 + n) else Char.ofNat (0x57 + n)

def escape (c : Char) : List Char :=
  if c = '"' then ['\\', '"']
  else if c = '\\' then ['\\', '\\']
  else if c = '\x08' then ['\\', 'b']
  else if c = '\t' then ['\\', 't']
  else if c = '\n' then ['\\', 'n']
  else if c = '\x0c' then ['\\', 'f']
  else if c = '\r' then ['\\', 'r']
  else if c.toNat < 0x20 then
    ['\\', 'u', '0', '0', hexDigit (c.toNat / 16), hexDigit (c.toNat % 16)]
  else [c]

def quote (s : String) : List Char := '"' :: s.toList.flatMap escape ++ ['"']

def member (m : String × String) : List Char := quote m.1 ++ ':' :: quote m.2

def object (ms : List (String × String)) : List Char :=
  '\x7b' :: joined ',' (ms.map member) ++ ['\x7d']

def array (os : List (List (String × String))) : List Char :=
  '[' :: joined ',' (os.map object) ++ [']']

end FieldRules.Text.Json
