import FieldRules.Charset
import FieldRules.Text.Pieces

/-!
Runs of code points, the form in which the tables of character properties are written. A run is
written `41-5A`, one code point `AA`, and every second code point of a run `100-136/2`. The runs of
a set are in ascending order and do not overlap.
-/

set_option autoImplicit false

namespace FieldRules.Unicode

structure Run where
  first : Nat
  last : Nat
  step : Nat

def Run.covers (r : Run) (n : Nat) : Bool :=
  decide (r.first ≤ n) && decide (n ≤ r.last) && (n - r.first) % r.step == 0

/-- Whether a code point lies in one of the runs. The search ends at the first run that starts
beyond it. -/
def covers : List Run → Nat → Bool
  | [], _ => false
  | r :: rs, n => decide (r.first ≤ n) && (r.covers n || covers rs n)

def hexDigit (c : Char) : Nat :=
  if c.isDigit then c.toNat - '0'.toNat else c.toUpper.toNat - 'A'.toNat + 10

def hexNumber (s : List Char) : Nat := s.foldl (fun n c => 16 * n + hexDigit c) 0

def Run.ofText (s : List Char) : Run :=
  match Text.pieces '-' s with
  | [first, rest] => match Text.pieces '/' rest with
    | [last, step] => ⟨hexNumber first, hexNumber last, hexNumber step⟩
    | _ => ⟨hexNumber first, hexNumber rest, 1⟩
  | _ => ⟨hexNumber s, hexNumber s, 1⟩

def readRuns (lines : List String) : List Run :=
  lines.flatMap fun line => (Text.pieces ' ' line.toList).map Run.ofText

def ofRuns (rs : List Run) : Charset := ⟨fun c => covers rs c.toNat⟩

def characters (lines : List String) : Charset := ofRuns (readRuns lines)

structure Row where
  names : List String
  set : Charset

def Row.ofText (names : String) (lines : List String) : Row :=
  ⟨(Text.pieces ' ' names.toList).map String.ofList, characters lines⟩

def findRow? (rows : List Row) (name : String) : Option Row :=
  rows.find? fun row => row.names.contains name

def find? (rows : List Row) (name : String) : Option Charset := (findRow? rows name).map Row.set

example : (readRuns ["41-5A AA", "100-136/2"]).map Run.first = [0x41, 0xAA, 0x100] := by decide

example : covers (readRuns ["41-5A AA", "100-136/2"]) 0x102 = true := by decide

example : covers (readRuns ["41-5A AA", "100-136/2"]) 0x103 = false := by decide

end FieldRules.Unicode
