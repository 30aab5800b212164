set_option autoImplicit false

namespace FieldRules.Pattern

inductive Flag where
  | caseless
  | multiLine
  | dotAll
  | lazy
  | unicode
  | crlf
  | spaced
  deriving DecidableEq, Repr

def Flag.ofChar? : Char → Option Flag
  | 'i' => some caseless
  | 'm' => some multiLine
  | 's' => some dotAll
  | 'U' => some lazy
  | 'u' => some unicode
  | 'R' => some crlf
  | 'x' => some spaced
  | _ => none

abbrev Flags := List Flag

namespace Flags

def initial : Flags := [.unicode]

def put (flags : Flags) (flag : Flag) (on : Bool) : Flags :=
  if on then flag :: flags else flags.filter (· ≠ flag)

/-- A change of flags, and how it ends: `)` is a directive, `:` opens a group. -/
structure Change where
  set : List Flag
  unset : List Flag
  directive : Bool

def Change.apply (change : Change) (flags : Flags) : Flags :=
  let added := change.set.foldl (fun fs f => fs.put f true) flags
  change.unset.foldl (fun fs f => fs.put f false) added

/-- Reads what follows a group's question mark: letters, each at most once, and among them at most
one minus, before which flags are set and behind which they are unset. A directive names a flag, and
a minus is followed by one. -/
def readChange (set : List Flag) (unset : Option (List Flag)) :
    List Char → Option (Change × List Char)
  | [] => none
  | c :: rest =>
    if c = ':' ∨ c = ')' then
      if unset = some [] ∨ (c = ')' ∧ set = [] ∧ unset = none) then none
      else some (⟨set, unset.getD [], c = ')'⟩, rest)
    else if c = '-' then
      if unset.isSome then none else readChange set (some []) rest
    else match Flag.ofChar? c with
      | none => none
      | some flag =>
        if flag ∈ set ∨ flag ∈ unset.getD [] then none
        else match unset with
          | none => readChange (flag :: set) none rest
          | some fs => readChange set (some (flag :: fs)) rest

end Flags

end FieldRules.Pattern
