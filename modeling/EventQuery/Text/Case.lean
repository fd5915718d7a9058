/-!
# Letter case

Keywords, truth values and operator words are compared without regard to the
case of ASCII letters.  Every other character is compared as it stands.
-/

namespace EventQuery.Text

/-- The text with its ASCII capital letters made small. -/
def lowercase (text : String) : String :=
  text.map Char.toLower

/-- The text with its ASCII small letters made capital. -/
def uppercase (text : String) : String :=
  text.map Char.toUpper

/-- Whether two texts differ at most in the case of ASCII letters. -/
def agreeIgnoringCase (first second : String) : Bool :=
  lowercase first == lowercase second

end EventQuery.Text
