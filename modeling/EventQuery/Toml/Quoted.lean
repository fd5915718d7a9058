import EventQuery.Text.Reading

/-!
# Strings of configuration files

Strings stand between double quotes, with escapes, or between single quotes,
without.  Three quotes open a string of several lines; a line feed right after
them does not count, and up to two quotes may stand before the closing three.
-/

namespace EventQuery.Toml

open EventQuery.Text

/-- The characters that may stand in texts and comments; line feeds are looked at apart. -/
def isVisible (character : Char) : Bool :=
  character == '\t' ||
    0x20 ≤ character.toNat && character.toNat != 0x7F

/-- The blanks within a line. -/
def isInlineBlank (character : Char) : Bool :=
  character == ' ' || character == '\t'

/-- What was read, with some characters in front. -/
def prepending
    (characters : List Char)
    (result : Option (List Char × List Char)) :
    Option (List Char × List Char) :=
  result.map fun read => (characters ++ read.1, read.2)

/-- The character of a short escape. -/
def shortEscape? : Char → Option Char
  | 'b' => some '\x08'
  | 't' => some '\t'
  | 'n' => some '\n'
  | 'f' => some '\x0c'
  | 'r' => some '\r'
  | '"' => some '"'
  | '\\' => some '\\'
  | _ => none

/-- The character of a code point in hexadecimal. -/
def codePoint? (digits : List Char) : Option Char :=
  (hexNumber? digits).bind scalar?

/-- The body of a string of one line with escapes, through its closing quote. -/
def readBasic : List Char → Option (List Char × List Char)
  | [] => none
  | '"' :: rest => some ([], rest)
  | '\\' :: 'u' :: a :: b :: c :: d :: rest =>
      match codePoint? [a, b, c, d] with
      | some character => prepending [character] (readBasic rest)
      | none => none
  | '\\' :: 'U' :: a :: b :: c :: d :: e :: f :: g :: h :: rest =>
      match codePoint? [a, b, c, d, e, f, g, h] with
      | some character => prepending [character] (readBasic rest)
      | none => none
  | '\\' :: escape :: rest =>
      match shortEscape? escape with
      | some character => prepending [character] (readBasic rest)
      | none => none
  | character :: rest =>
      if isVisible character && character != '\\' then
        prepending [character] (readBasic rest)
      else
        none

/-- The body of a string of one line without escapes, through its closing quote. -/
def readLiteral : List Char → Option (List Char × List Char)
  | [] => none
  | '\'' :: rest => some ([], rest)
  | character :: rest =>
      if isVisible character then
        prepending [character] (readLiteral rest)
      else
        none

/-- Whether blanks and then the end of the line come first. -/
def endsLine (characters : List Char) : Bool :=
  match characters.dropWhile isInlineBlank with
  | '\n' :: _ => true
  | '\r' :: '\n' :: _ => true
  | _ => false

/--
The body of a string of several lines with escapes, through its closing quotes.
While `isSkipping`, after a backslash at the end of a line, blanks and line
feeds do not count.
-/
def readLongBasic (isSkipping : Bool) : List Char → Option (List Char × List Char)
  | [] => none
  | '"' :: '"' :: '"' :: '"' :: '"' :: rest => some (['"', '"'], rest)
  | '"' :: '"' :: '"' :: '"' :: rest => some (['"'], rest)
  | '"' :: '"' :: '"' :: rest => some ([], rest)
  | '\r' :: '\n' :: rest =>
      if isSkipping then
        readLongBasic true rest
      else
        prepending ['\n'] (readLongBasic false rest)
  | '\\' :: 'u' :: a :: b :: c :: d :: rest =>
      match codePoint? [a, b, c, d] with
      | some character => prepending [character] (readLongBasic false rest)
      | none => none
  | '\\' :: 'U' :: a :: b :: c :: d :: e :: f :: g :: h :: rest =>
      match codePoint? [a, b, c, d, e, f, g, h] with
      | some character => prepending [character] (readLongBasic false rest)
      | none => none
  | '\\' :: escape :: rest =>
      match shortEscape? escape with
      | some character => prepending [character] (readLongBasic false rest)
      | none =>
          if endsLine (escape :: rest) then readLongBasic true rest else none
  | character :: rest =>
      if isSkipping && (isInlineBlank character || character == '\n') then
        readLongBasic true rest
      else if character == '\n' || isVisible character && character != '\\' then
        prepending [character] (readLongBasic false rest)
      else
        none

/-- The body of a string of several lines without escapes, through its closing quotes. -/
def readLongLiteral : List Char → Option (List Char × List Char)
  | [] => none
  | '\'' :: '\'' :: '\'' :: '\'' :: '\'' :: rest => some (['\'', '\''], rest)
  | '\'' :: '\'' :: '\'' :: '\'' :: rest => some (['\''], rest)
  | '\'' :: '\'' :: '\'' :: rest => some ([], rest)
  | '\r' :: '\n' :: rest => prepending ['\n'] (readLongLiteral rest)
  | character :: rest =>
      if character == '\n' || isVisible character then
        prepending [character] (readLongLiteral rest)
      else
        none

/-- The characters after a line feed, if one comes first. -/
def afterFirstNewline : List Char → List Char
  | '\n' :: rest => rest
  | '\r' :: '\n' :: rest => rest
  | rest => rest

/-- A string of one line at the start, and the rest. -/
def readShort : List Char → Option (List Char × List Char)
  | '"' :: rest => readBasic rest
  | '\'' :: rest => readLiteral rest
  | _ => none

/-- A string at the start, and the rest. -/
def readQuoted : List Char → Option (List Char × List Char)
  | '"' :: '"' :: '"' :: rest => readLongBasic false (afterFirstNewline rest)
  | '\'' :: '\'' :: '\'' :: rest => readLongLiteral (afterFirstNewline rest)
  | other => readShort other

end EventQuery.Toml
