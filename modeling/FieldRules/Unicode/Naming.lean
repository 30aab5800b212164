import FieldRules.Unicode.Property

/-!
The characters of which names are made. Names may use the letters and numbers of version 17 of the
standard, while the properties of characters are those of version 16.
-/

set_option autoImplicit false

namespace FieldRules.Unicode

/-- Letters that version 17 introduced. -/
def recentLetter : Charset := characters
  ["88F C5C CDC A7CE-A7CF A7D2 A7D4 A7F1 10940-10959 10EC5-10EC7 10EFA-10EFB 11B60-11B67",
   "11DB0-11DDB 16EA0-16EB8 16EBB-16ED3 16FF2-16FF6 187F8-187FF 18D09-18D1E 18D80-18DF2",
   "1E6C0-1E6DE 1E6E0-1E6F5 1E6FE-1E6FF 2B73A-2B73F 2CEA2-2CEAD 323B0-33479"]

def recentDigit : Charset := characters ["11DE0-11DE9"]

def nameLetter : Charset := alphabetic.union recentLetter

def nameCharacter : Charset := .unions [nameLetter, number, recentDigit]

end FieldRules.Unicode
