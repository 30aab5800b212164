set_option autoImplicit false

namespace FieldRules.Text

def wordsApart : List Char → List Char
  | [] => []
  | c :: s => c.toLower :: s.flatMap fun d => if d.isUpper then ['_', d.toLower] else [d.toLower]

example : wordsApart "LowLine".toList = "low_line".toList := by decide

end FieldRules.Text
