import EventQuery.Text.ConcealedTable

/-!
# Text shown between quotes

Messages show a text between double quotes with every character visible: the
quote and the backslash take a backslash, the common controls have a letter
of their own, and a character that cannot be shown alone is given by its code
point in hexadecimal.
-/

namespace EventQuery.Text

/-- Whether a character has no shape of its own, so that a reader could not see it. -/
def isConcealed (character : Char) : Bool :=
  if character.toNat < 0x80 then
    character.toNat < 0x20 || character.toNat == 0x7F
  else
    liesIn concealedIntervals character

/-- A code point in hexadecimal between braces, as in `\u{200b}`. -/
def codePointEscape (character : Char) : List Char :=
  ['\\', 'u', '\x7b'] ++ Nat.toDigits 16 character.toNat ++ ['\x7d']

/--
One character of a shown text.  The argument says whether a single quote takes
a backslash as well.
-/
def shownCharacter
    (escapeSingleQuote : Bool)
    (character : Char) :
    List Char :=
  match character with
  | '\x00' => ['\\', '0']
  | '\t' => ['\\', 't']
  | '\r' => ['\\', 'r']
  | '\n' => ['\\', 'n']
  | '\\' => ['\\', '\\']
  | '"' => ['\\', '"']
  | '\'' => if escapeSingleQuote then ['\\', '\''] else ['\'']
  | _ =>
      if isConcealed character then
        codePointEscape character
      else
        [character]

/-- A text between double quotes; single quotes stand as they are. -/
def quoted (text : String) : String :=
  String.ofList ('"' :: text.toList.flatMap (shownCharacter false) ++ ['"'])

/-- The name of a file between double quotes; single quotes take a backslash. -/
def quotedPath (path : String) : String :=
  String.ofList ('"' :: path.toList.flatMap (shownCharacter true) ++ ['"'])

end EventQuery.Text
