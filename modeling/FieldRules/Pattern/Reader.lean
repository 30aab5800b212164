import FieldRules.Pattern.Class
import FieldRules.Pattern.Count
import FieldRules.Pattern.Part
import FieldRules.Unicode.Naming

set_option autoImplicit false

namespace FieldRules.Pattern

/-- One level of groups: its finished branches, and the parts of the branch that is being read, the
last first. A directive stands among the parts but cannot be repeated. -/
structure Level where
  branches : List Part
  parts : List (Option Part)

namespace Level

def initial : Level := ⟨[], []⟩

def add (level : Level) (part : Option Part) : Level :=
  ⟨level.branches, part :: level.parts⟩

def branch (level : Level) : Part := .sequence (level.parts.reverse.filterMap id)

def split (level : Level) : Level := ⟨level.branches ++ [level.branch], []⟩

def whole (level : Level) : Part :=
  match level.branches with
  | [] => level.branch
  | first :: branches => .choice first (branches ++ [level.branch])

def repeatLast (level : Level) (count : Count) : Option Level :=
  match level.parts with
  | some part :: parts =>
    some ⟨level.branches, some (part.repeated count.least count.most) :: parts⟩
  | _ => none

end Level

/-- What is read so far. Each open group keeps the flags that hold again behind it. -/
structure State where
  flags : Flags
  level : Level
  outer : List (Flags × Level)
  names : List (List Char)
  classes : Option (OpenClass × List OpenClass)

namespace State

def initial : State := ⟨.initial, .initial, [], [], none⟩

def spaced (st : State) : Bool := decide (.spaced ∈ st.flags)

def add (st : State) (part : Part) : State := { st with level := st.level.add (some part) }

def openGroup (st : State) (inner : Flags) : State :=
  { st with flags := inner, level := .initial, outer := (st.flags, st.level) :: st.outer }

def closeGroup (st : State) : Option State :=
  match st.outer with
  | [] => none
  | (flags, level) :: outer =>
    some { st with flags := flags, level := level.add (some st.level.whole), outer := outer }

def isNameStart (c : Char) : Bool := c == '_' || Unicode.nameLetter.has c

def isNamePart (c : Char) : Bool :=
  ['_', '.', '[', ']'].contains c || Unicode.nameCharacter.has c

def isGroupName : List Char → Bool
  | [] => false
  | c :: s => isNameStart c && s.all isNamePart

def openNamed (st : State) (s : List Char) : Option (State × List Char) :=
  match s.dropWhile (· != '>') with
  | [] => none
  | _ :: rest =>
    let name := s.takeWhile (· != '>')
    if !isGroupName name then none
    else if name ∈ st.names then none
    else some ({ st.openGroup st.flags with names := name :: st.names }, rest)

def readGroup (st : State) (s : List Char) : Option (State × List Char) :=
  match skipSpace st.spaced s with
  | '?' :: '=' :: _ => none
  | '?' :: '!' :: _ => none
  | '?' :: '<' :: '=' :: _ => none
  | '?' :: '<' :: '!' :: _ => none
  | '?' :: 'P' :: '<' :: rest => st.openNamed rest
  | '?' :: '<' :: rest => st.openNamed rest
  | '?' :: rest => do
    let (change, rest) ← Flags.readChange [] none rest
    let flags := change.apply st.flags
    if change.directive then return ({ st with flags := flags, level := st.level.add none }, rest)
    else return (st.openGroup flags, rest)
  | rest => some (st.openGroup st.flags, rest)

def character (st : State) (c : Char) : Part :=
  .set (foldCase st.flags (.ofList [c]))

def dot (st : State) : Option Part :=
  if .unicode ∉ st.flags then none
  else if .dotAll ∈ st.flags then some (.set .all)
  else if .crlf ∈ st.flags then some (.set (Charset.compl (.ofList ['\r', '\n'])))
  else some (.set (Charset.compl (.ofList ['\n'])))

def lineStart (st : State) : Anchor :=
  if .multiLine ∈ st.flags then .lineStart (decide (.crlf ∈ st.flags)) else .textStart

def lineEnd (st : State) : Anchor :=
  if .multiLine ∈ st.flags then .lineEnd (decide (.crlf ∈ st.flags)) else .textEnd

def escaped (st : State) : Escaped → Part
  | .character c => st.character c
  | .set s => .set s
  | .anchor a => .anchor a

def skipLazy : List Char → List Char
  | '?' :: s => s
  | s => s

def repeatLast (st : State) (count : Count) (rest : List Char) :
    Option (State × List Char) := do
  return ({ st with level := ← st.level.repeatLast count }, skipLazy rest)

def withClass (st : State) (result : ClassState × List Char) : State × List Char :=
  match result with
  | (.inside cls outer, rest) => ({ st with classes := some (cls, outer) }, rest)
  | (.complete s, rest) => ({ st with classes := none }.add (.set s), rest)

def stepOutside (st : State) (c : Char) (s : List Char) : Option (State × List Char) :=
  if st.spaced ∧ (Text.isBlank c ∨ c = '#') then some (st, skipBlanks false (c :: s))
  else match c with
  | '(' => st.readGroup s
  | ')' => do return (← st.closeGroup, s)
  | '|' => some ({ st with level := st.level.split }, s)
  | '[' =>
    let (cls, rest) := OpenClass.ofBracket st.spaced s
    some (st.withClass (.inside cls [], rest))
  | '?' => st.repeatLast ⟨0, some 1⟩ s
  | '*' => st.repeatLast ⟨0, none⟩ s
  | '+' => st.repeatLast ⟨1, none⟩ s
  | '\x7B' => do
    let (count, rest) ← Count.read st.spaced s
    st.repeatLast count (skipSpace st.spaced rest)
  | '\\' => do
    let (e, rest) ← Escaped.read st.flags s
    return (st.add (st.escaped e), rest)
  | '.' => do return (st.add (← st.dot), s)
  | '^' => some (st.add (.anchor st.lineStart), s)
  | '$' => some (st.add (.anchor st.lineEnd), s)
  | c => some (st.add (st.character c), s)

def step (st : State) (c : Char) (s : List Char) : Option (State × List Char) :=
  match st.classes with
  | none => st.stepOutside c s
  | some (cls, outer) => (ClassState.step st.flags cls outer c s).map st.withClass

/-- Reads a text, except for a number of characters that are read already. -/
def read (st : State) (done : Nat) : List Char → Option State
  | [] => some st
  | c :: s => match done with
    | n + 1 => st.read n s
    | 0 => (st.step c s).bind fun (next, rest) => next.read (s.length - rest.length) s

def complete (st : State) : Option Part :=
  if st.classes.isSome then none
  else if !st.outer.isEmpty then none
  else some st.level.whole

end State

end FieldRules.Pattern
