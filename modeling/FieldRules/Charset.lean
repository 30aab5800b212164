set_option autoImplicit false

namespace FieldRules

structure Charset where
  has : Char → Bool

namespace Charset

def empty : Charset := ⟨fun _ => false⟩

def all : Charset := ⟨fun _ => true⟩

def ofList (cs : List Char) : Charset := ⟨fun c => cs.contains c⟩

def range (first last : Char) : Charset := ⟨fun c => first ≤ c && c ≤ last⟩

def union (s t : Charset) : Charset := ⟨fun c => s.has c || t.has c⟩

def inter (s t : Charset) : Charset := ⟨fun c => s.has c && t.has c⟩

def diff (s t : Charset) : Charset := ⟨fun c => s.has c && !t.has c⟩

def symmDiff (s t : Charset) : Charset := ⟨fun c => s.has c != t.has c⟩

def compl (s : Charset) : Charset := ⟨fun c => !s.has c⟩

def complIf (flip : Bool) (s : Charset) : Charset := if flip then s.compl else s

def unions (ss : List Charset) : Charset := ss.foldr union empty

/-- With each character of the set, all that have it among their `kin`. -/
def closure (kin : Char → List Char) (s : Charset) : Charset :=
  ⟨fun c => s.has c || (kin c).any s.has⟩

end Charset

end FieldRules
