/-!
Engines of patterns. Which texts are patterns and where a pattern is found is left to an engine. The
check of patterns takes it as an argument, and so does every registry that holds this check.
-/

set_option autoImplicit false

namespace FieldRules

/-- An engine compiles a text to a pattern, or says why it is none, and searches texts for it. -/
structure Engine where
  Compiled : Type
  compile : String → Except String Compiled
  search : Compiled → String → Bool

/-- A word of letters and digits is a pattern, which is found where the word stands. No other text
is a pattern for this engine. -/
def Engine.words : Engine where
  Compiled := List Char
  compile source :=
    if source.toList.all Char.isAlphanum then .ok source.toList else .error "no word"
  search word text :=
    (List.range (text.length + 1)).any fun i => word.isPrefixOf (text.toList.drop i)

end FieldRules
