import FieldRules.Pattern.Ascii
import FieldRules.Pattern.Escape

/-!
Classes of characters between brackets, as in `[a-z&&[^aeiou]]`. The members of a class are
characters, ranges, escape sequences, named ASCII classes and further classes; between members stand
the operators `&&`, `--` and `~~`, which take all that is on either side of them, from left to
right.
-/

set_option autoImplicit false

namespace FieldRules.Pattern

inductive SetOperator where
  | inter
  | diff
  | symmDiff
  deriving DecidableEq, Repr

def SetOperator.apply : SetOperator → Charset → Charset → Charset
  | inter => Charset.inter
  | diff => Charset.diff
  | symmDiff => Charset.symmDiff

def SetOperator.ofSign? : Char → Option SetOperator
  | '&' => some inter
  | '-' => some diff
  | '~' => some symmDiff
  | _ => none

inductive Stage where
  | bracket
  | hyphens
  | members
  deriving DecidableEq, Repr

structure OpenClass where
  negated : Bool
  stage : Stage
  pending : Option (SetOperator × Charset)
  members : Charset

namespace OpenClass

def ofBracket (spaced : Bool) (s : List Char) : OpenClass × List Char :=
  match skipSpace spaced s with
  | '^' :: rest => (⟨true, .bracket, none, .empty⟩, rest)
  | rest => (⟨false, .bracket, none, .empty⟩, rest)

def add (cls : OpenClass) (stage : Stage) (s : Charset) : OpenClass :=
  { cls with stage := stage, members := cls.members.union s }

def settled (flags : Flags) (cls : OpenClass) : Charset :=
  match cls.pending with
  | none => cls.members
  | some (operator, left) => operator.apply (foldCase flags left) (foldCase flags cls.members)

def await (flags : Flags) (cls : OpenClass) (operator : SetOperator) : OpenClass :=
  ⟨cls.negated, .members, some (operator, cls.settled flags), .empty⟩

def close (flags : Flags) (cls : OpenClass) : Option Charset :=
  complementIf flags cls.negated (foldCase flags (cls.settled flags))

end OpenClass

def asciiClass? (s : List Char) : Option ((Bool × Charset) × List Char) :=
  match s with
  | ':' :: s =>
    let (negated, s) := match s with
      | '^' :: s => (true, s)
      | s => (false, s)
    match s.dropWhile (· != ':') with
    | ':' :: ']' :: rest =>
      (asciiClasses.lookup (String.ofList (s.takeWhile (· != ':')))).map fun set =>
        ((negated, set), rest)
    | _ => none
  | _ => none

inductive Member where
  | character (c : Char)
  | set (s : Charset)

def Member.toSet : Member → Charset
  | character c => .ofList [c]
  | set s => s

def Member.ofCharacter (flags : Flags) (c : Char) : Option Member :=
  if .unicode ∉ flags ∧ 128 ≤ c.toNat then none else some (character c)

def Member.read (flags : Flags) (c : Char) (s : List Char) : Option (Member × List Char) :=
  if c = '\\' then do
    let (escaped, rest) ← Escaped.read flags s
    match escaped with
    | .character c => return (← ofCharacter flags c, rest)
    | .set s => return (set s, rest)
    | .anchor _ => none
  else do return (← ofCharacter flags c, s)

def Member.range : Member → Member → Option Charset
  | character first, character last =>
    if first ≤ last then some (.range first last) else none
  | _, _ => none

/-- The character that decides whether a hyphen makes a range: the first behind the hyphen, and in a
spaced pattern the first that is no blank and no hash sign that follows blanks at most. -/
def afterHyphen? (spaced : Bool) (s : List Char) : Option Char :=
  if spaced then
    match s.dropWhile Text.isBlank with
    | '#' :: t => (t.dropWhile Text.isBlank).head? <|> s.head?
    | c :: _ => some c
    | [] => s.head?
  else s.head?

def Member.readRange (flags : Flags) (c : Char) (s : List Char) :
    Option (Charset × List Char) := do
  let spaced := decide (.spaced ∈ flags)
  let (first, rest) ← Member.read flags c s
  match skipSpace spaced rest with
  | [] => none
  | '-' :: t =>
    let next := afterHyphen? spaced t
    if next = some ']' ∨ next = some '-' then return (first.toSet, '-' :: t)
    match skipSpace spaced t with
    | [] => none
    | d :: t => do
      let (last, rest) ← Member.read flags d t
      return (← first.range last, rest)
  | rest => return (first.toSet, rest)

inductive ClassState where
  | inside (cls : OpenClass) (outer : List OpenClass)
  | complete (s : Charset)

namespace ClassState

def accept (s : Charset) : List OpenClass → ClassState
  | [] => complete s
  | cls :: outer => inside (cls.add .members s) outer

def step (flags : Flags) (cls : OpenClass) (outer : List OpenClass) (c : Char) (s : List Char) :
    Option (ClassState × List Char) :=
  let spaced := decide (.spaced ∈ flags)
  let ranged := do
    let (set, rest) ← Member.readRange flags c s
    return (accept set (cls :: outer), rest)
  if spaced ∧ (Text.isBlank c ∨ c = '#') then some (inside cls outer, skipBlanks false (c :: s))
  else if c = '-' ∧ cls.stage ≠ .members then
    some (inside (cls.add .hyphens (.ofList ['-'])) outer, s)
  else if c = ']' ∧ cls.stage = .bracket then some (accept (.ofList [']']) (cls :: outer), s)
  else if c = ']' then do return (accept (← cls.close flags) outer, s)
  else if c = '[' then match asciiClass? s with
    | some ((negated, set), rest) => do
      return (accept (← complementIf flags negated (foldCase flags set)) (cls :: outer), rest)
    | none =>
      let (opened, rest) := OpenClass.ofBracket spaced s
      some (inside opened (cls :: outer), rest)
  else match SetOperator.ofSign? c with
    | some operator =>
      if s.head? = some c then some (inside (cls.await flags operator) outer, s.drop 1) else ranged
    | none => ranged

end ClassState

end FieldRules.Pattern
