import FieldRules.Pattern.Anchor
import FieldRules.Pattern.Flags
import FieldRules.Pattern.Space
import FieldRules.Unicode.CaseFolding

set_option autoImplicit false

namespace FieldRules.Pattern

inductive Escaped where
  | character (c : Char)
  | set (s : Charset)
  | anchor (a : Anchor)

def foldCase (flags : Flags) (s : Charset) : Charset :=
  if .caseless ∈ flags then
    s.closure (if .unicode ∈ flags then Unicode.caseKin else Unicode.asciiKin)
  else s

/-- The complement where `flip` holds. Without the `unicode` flag a complement would hold parts of
characters. -/
def complementIf (flags : Flags) (flip : Bool) (s : Charset) : Option Charset :=
  if flip ∧ .unicode ∉ flags then none else some (s.complIf flip)

def wordsOf (flags : Flags) : Words := if .unicode ∈ flags then .unicode else .ascii

def wordSet (flags : Flags) : Charset := (wordsOf flags).set

def digitSet (flags : Flags) : Charset :=
  if .unicode ∈ flags then Unicode.decimalNumber else asciiDigit

def spaceSet (flags : Flags) : Charset :=
  if .unicode ∈ flags then Unicode.whiteSpace else asciiSpace

namespace Escaped

def hexValue? (c : Char) : Option Nat :=
  if c.isDigit || ('a' ≤ c && c ≤ 'f') || ('A' ≤ c && c ≤ 'F') then some (Unicode.hexDigit c)
  else none

def hexFrom (n : Nat) : List Char → Option Nat
  | [] => some n
  | c :: s => (hexValue? c).bind fun d => hexFrom (16 * n + d) s

def ofCode (n : Nat) : Option Char := if n.isValidChar then some (Char.ofNat n) else none

def readDigits (spaced : Bool) (n : Nat) : Nat → List Char → Option (Nat × List Char)
  | 0, s => some (n, s)
  | k + 1, s => match skipSpace spaced s with
    | [] => none
    | c :: rest => (hexValue? c).bind fun d => readDigits spaced (16 * n + d) k rest

def readCode (flags : Flags) (digits : Nat) (s : List Char) : Option (Escaped × List Char) :=
  let spaced := decide (.spaced ∈ flags)
  match skipSpace spaced s with
  | '\x7B' :: rest => do
    let (inner, rest) ← upTo? '\x7D' spaced false rest
    if inner = [] then none
    return (character (← ofCode (← hexFrom 0 inner)), rest)
  | s => do
    let (n, rest) ← readDigits spaced 0 digits s
    if digits = 2 ∧ .unicode ∉ flags ∧ 128 ≤ n then none
    return (character (← ofCode n), rest)

def splitAtPair? (a b : Char) : List Char → Option (List Char × List Char)
  | [] => none
  | [_] => none
  | c :: d :: s =>
    if c = a ∧ d = b then some ([], s)
    else (splitAtPair? a b (d :: s)).map fun (left, right) => (c :: left, right)

def splitAt? (a : Char) : List Char → Option (List Char × List Char)
  | [] => none
  | c :: s =>
    if c = a then some ([], s)
    else (splitAt? a s).map fun (left, right) => (c :: left, right)

def property? (s : List Char) : Option (Charset × Bool) :=
  match splitAtPair? '!' '=' s with
  | some (name, value) => (Unicode.valued? name value).map fun set => (set, true)
  | none => match splitAt? ':' s <|> splitAt? '=' s with
    | some (name, value) => (Unicode.valued? name value).map fun set => (set, false)
    | none => (Unicode.named? s).map fun set => (set, false)

def ofProperty (flags : Flags) (flip : Bool) (name : List Char) : Option Escaped :=
  if .unicode ∉ flags then none
  else (property? name).map fun (s, flipped) =>
    set ((foldCase flags s).complIf (flip != flipped))

def readProperty (flags : Flags) (flip : Bool) (s : List Char) :
    Option (Escaped × List Char) :=
  let spaced := decide (.spaced ∈ flags)
  match skipSpace spaced s with
  | [] => none
  | c :: rest =>
    if c = '\x7B' then do
      let (name, rest) ← upTo? '\x7D' spaced false rest
      return (← ofProperty flags flip name, rest)
    else if c = '\\' then none
    else do return (← ofProperty flags flip [c], rest)

def ofLetter (flags : Flags) (flip : Bool) (s : Charset) : Option Escaped :=
  (complementIf flags flip s).map set

def edge (flags : Flags) (kind : Edge) : Escaped := anchor (.edge kind (wordsOf flags))

def edgeOfName? : List Char → Option Edge
  | ['s', 't', 'a', 'r', 't'] => some .start
  | ['e', 'n', 'd'] => some .finish
  | ['s', 't', 'a', 'r', 't', '-', 'h', 'a', 'l', 'f'] => some .startHalf
  | ['e', 'n', 'd', '-', 'h', 'a', 'l', 'f'] => some .finishHalf
  | _ => none

/-- Reads the kind of an edge of a word, which may stand between braces. What cannot begin a kind is
left to be read as a count. -/
def readEdge (flags : Flags) (s : List Char) : Option (Escaped × List Char) :=
  let spaced := decide (.spaced ∈ flags)
  match s with
  | '\x7B' :: inner => match skipSpace spaced inner with
    | [] => none
    | c :: _ =>
      if c.isAlpha || c == '-' then do
        let (name, rest) ← upTo? '\x7D' spaced false inner
        return (edge flags (← edgeOfName? name), rest)
      else some (edge flags .either, s)
  | _ => some (edge flags .either, s)

def isPlain (c : Char) : Bool :=
  decide (c.toNat < 128) && !c.isAlphanum && !(c == '<' || c == '>')

def read (flags : Flags) : List Char → Option (Escaped × List Char)
  | [] => none
  | c :: s => match c with
    | 'x' => readCode flags 2 s
    | 'u' => readCode flags 4 s
    | 'U' => readCode flags 8 s
    | 'p' => readProperty flags false s
    | 'P' => readProperty flags true s
    | 'd' => do return (← ofLetter flags false (digitSet flags), s)
    | 'D' => do return (← ofLetter flags true (digitSet flags), s)
    | 's' => do return (← ofLetter flags false (spaceSet flags), s)
    | 'S' => do return (← ofLetter flags true (spaceSet flags), s)
    | 'w' => do return (← ofLetter flags false (wordSet flags), s)
    | 'W' => do return (← ofLetter flags true (wordSet flags), s)
    | 'a' => some (character '\x07', s)
    | 'f' => some (character '\x0C', s)
    | 't' => some (character '\t', s)
    | 'n' => some (character '\n', s)
    | 'r' => some (character '\r', s)
    | 'v' => some (character '\x0B', s)
    | 'A' => some (anchor .textStart, s)
    | 'z' => some (anchor .textEnd, s)
    | 'b' => readEdge flags s
    | 'B' => some (edge flags .neither, s)
    | '<' => some (edge flags .start, s)
    | '>' => some (edge flags .finish, s)
    | c => if isPlain c then some (character c, s) else none

end Escaped

end FieldRules.Pattern
