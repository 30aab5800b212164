import FieldRules.Text.Json
import FieldRules.Text.Words

set_option autoImplicit false

namespace FieldRules

inductive Reason where
  | lengthDiffers | noMatch | textNotListed | tooSmall | tooGreat | intNotListed
  deriving DecidableEq, Repr

namespace Reason

def code : Reason → String
  | lengthDiffers => "len_not_equal"
  | noMatch => "regexp_not_match"
  | textNotListed => "str_not_in_list"
  | tooSmall => "cant_be_less"
  | tooGreat => "cant_be_greater"
  | intNotListed => "int_not_in_list"

def message : Reason → String
  | lengthDiffers => "length of the string not equal to"
  | noMatch => "string does not contain any matches to the regular expression"
  | textNotListed => "string is not in the list"
  | tooSmall => "cannot be less"
  | tooGreat => "cannot be greater"
  | intNotListed => "int is not in the list"

instance : ToString Reason := ⟨message⟩

def label : Reason → String
  | lengthDiffers => "LenNotEqual"
  | noMatch => "RegexpNotMatch"
  | textNotListed => "StrNotInList"
  | tooSmall => "CantBeLess"
  | tooGreat => "CantBeGreater"
  | intNotListed => "IntNotInList"

def written (r : Reason) : String := String.ofList (Text.wordsApart r.label.toList)

def all : List Reason :=
  [lengthDiffers, noMatch, textNotListed, tooSmall, tooGreat, intNotListed]

def ofCode? (s : String) : Option Reason := all.find? fun r => r.code == s

theorem ofCode?_code (r : Reason) : ofCode? r.code = some r := by cases r <;> decide

theorem written_eq_code (r : Reason) : r.written = r.code := by cases r <;> decide

end Reason

/-- One failed rule. The field is empty until the walk of a record fills it in. -/
structure Rejection where
  field : String
  reason : Reason
  condition : String
  deriving DecidableEq, Repr

namespace Rejection

def unstamped (reason : Reason) (condition : String) : Rejection := ⟨"", reason, condition⟩

def stamp (r : Rejection) (field : String) : Rejection := { r with field := field }

def hasField (r : Rejection) : Bool := r.field != ""

def detail (r : Rejection) : String := r.reason.message ++ " " ++ r.condition

def text (r : Rejection) : String :=
  if r.field = "" then r.detail else r.field ++ ": " ++ r.detail

instance : ToString Rejection := ⟨text⟩

def members (r : Rejection) : List (String × String) :=
  [("field", r.field), ("kind", r.reason.written), ("condition", r.condition)]

def json (r : Rejection) : List Char := Text.Json.object r.members

end Rejection

end FieldRules
