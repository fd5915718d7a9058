import EventQuery.Toml.Quoted
import EventQuery.Toml.Scalar
import EventQuery.Toml.Section

/-!
# Reading configuration files

The grammar of TOML: lines with assignments and headers of tables, comments,
and values that may be nested up to a limit.  A file either is read as a whole
or not at all.
-/

namespace EventQuery.Toml

open EventQuery.Text

/-- A dotted key, an array in an array and the like may have one level less than this. -/
def nestingLimit : Nat := 80

/-- The characters after the blanks of the line. -/
def afterInlineBlanks (characters : List Char) : List Char :=
  characters.dropWhile isInlineBlank

/-- The characters of keys without quotes. -/
def isKeyCharacter (character : Char) : Bool :=
  character.isAlphanum || character == '_' || character == '-'

/-- A key without dots at the start, and the rest. -/
def readSimpleKey (characters : List Char) : Option (String × List Char) :=
  match readShort characters with
  | some (key, rest) => some (String.ofList key, rest)
  | none =>
      let key := characters.takeWhile isKeyCharacter
      if key.isEmpty then
        none
      else
        some (String.ofList key, characters.dropWhile isKeyCharacter)

/-- The parts of a dotted key at the start, with blanks around them, and the rest. -/
def readKeyParts (characters : List Char) : Option (List String × List Char) :=
  match bounded characters.length (readSimpleKey (afterInlineBlanks characters)) with
  | none => none
  | some part =>
      match bounded part.rest.length
          (match afterInlineBlanks part.rest with
            | '.' :: rest => some ((), rest)
            | _ => none) with
      | none => some ([part.value], afterInlineBlanks part.rest)
      | some dot =>
          (readKeyParts dot.rest).map fun others =>
            (part.value :: others.1, others.2)
termination_by characters.length
decreasing_by
  have := part.length_lt
  have := dot.length_lt
  omega

/-- The last part of a key with the parts before it. -/
def splitKey (parts : List String) : Option (List String × String) :=
  if parts.length < nestingLimit then
    parts.getLast?.map fun key => (parts.dropLast, key)
  else
    none

/-- A dotted key at the start, and the rest. -/
def readKey (characters : List Char) : Option ((List String × String) × List Char) := do
  let (parts, rest) ← readKeyParts characters
  let key ← splitKey parts
  pure (key, rest)

/--
The characters after blanks, line feeds and comments.  Where a comment holds a
character that may not stand there, nothing after it is passed over.
-/
def skipSpace (inComment : Bool) : List Char → List Char
  | [] => []
  | '\r' :: '\n' :: rest => skipSpace false rest
  | character :: rest =>
      if character == '\n' then
        skipSpace false rest
      else if inComment then
        if isVisible character then skipSpace true rest else character :: rest
      else if isInlineBlank character then
        skipSpace false rest
      else if character == '#' then
        skipSpace true rest
      else
        character :: rest

/-- A reader of values at the start of a text. -/
abbrev ValueReader := List Char → Option (Toml × List Char)

/-- An item of an array, whether a comma follows it, and the rest. -/
def readItem
    (value : ValueReader)
    (characters : List Char) :
    Option ((Toml × Bool) × List Char) := do
  let (item, rest) ← value characters
  match skipSpace false rest with
  | ',' :: rest => pure ((item, true), rest)
  | ']' :: rest => pure ((item, false), rest)
  | _ => none

/-- The items of an array through its closing bracket, and the rest. -/
def readItems
    (value : ValueReader)
    (characters : List Char) :
    Option (List Toml × List Char) :=
  match skipSpace false characters with
  | ']' :: rest => some ([], rest)
  | start =>
      match bounded characters.length (readItem value start) with
      | none => none
      | some read =>
          if read.value.2 then
            (readItems value read.rest).map fun others =>
              (read.value.1 :: others.1, others.2)
          else
            some ([read.value.1], read.rest)
termination_by characters.length
decreasing_by
  exact read.length_lt

/-- A key, an equals sign and a value at the start, and the rest. -/
def readAssignment
    (value : ValueReader)
    (characters : List Char) :
    Option ((List String × String × Toml) × List Char) := do
  let ((path, key), rest) ← readKey characters
  match rest with
  | '=' :: rest =>
      let (assigned, rest) ← value (afterInlineBlanks rest)
      pure ((path, key, assigned), rest)
  | _ => none

/-- An assignment between braces, whether a comma follows it, and the rest. -/
def readEntry
    (value : ValueReader)
    (characters : List Char) :
    Option (((List String × String × Toml) × Bool) × List Char) := do
  let (assignment, rest) ← readAssignment value characters
  match afterInlineBlanks rest with
  | ',' :: rest => pure ((assignment, true), rest)
  | '\x7d' :: rest => pure ((assignment, false), rest)
  | _ => none

/-- One or more assignments through the closing brace, and the rest. -/
def readEntries
    (value : ValueReader)
    (characters : List Char) :
    Option (List (List String × String × Toml) × List Char) :=
  match bounded characters.length (readEntry value characters) with
  | none => none
  | some read =>
      if read.value.2 then
        (readEntries value read.rest).map fun others =>
          (read.value.1 :: others.1, others.2)
      else
        some ([read.value.1], read.rest)
termination_by characters.length
decreasing_by
  exact read.length_lt

/-- A table between braces after the opening one, and the rest. -/
def readInlineTable
    (value : ValueReader)
    (characters : List Char) :
    Option (Toml × List Char) :=
  match afterInlineBlanks characters with
  | '\x7d' :: rest => some (.table [], rest)
  | _ => do
      let (assignments, rest) ← readEntries value characters
      let table ← inlineTable? assignments
      pure (table, rest)

/-- A value at the start that is nested at most so many levels, and the rest. -/
def readValue : Nat → ValueReader
  | 0, characters =>
      match characters with
      | '[' :: _ => none
      | '\x7b' :: _ => none
      | _ => readUnnested characters
  | levels + 1, characters =>
      match characters with
      | '[' :: rest =>
          (readItems (readValue levels) rest).map fun read =>
            (.array read.1, read.2)
      | '\x7b' :: rest => readInlineTable (readValue levels) rest
      | _ => readUnnested characters
where
  /-- A value without brackets at the start, and the rest. -/
  readUnnested (characters : List Char) : Option (Toml × List Char) :=
    match characters with
    | '"' :: _ => readText characters
    | '\'' :: _ => readText characters
    | _ => readScalar characters
  /-- A string at the start, and the rest. -/
  readText (characters : List Char) : Option (Toml × List Char) :=
    (readQuoted characters).map fun read =>
      (.string (String.ofList read.1), read.2)

/-- The characters of the next line, if blanks and a comment are all that is left of this one. -/
def afterLineEnd? (characters : List Char) : Option (List Char) :=
  let rest :=
    match afterInlineBlanks characters with
    | '#' :: comment => comment.dropWhile isVisible
    | rest => rest
  match rest with
  | [] => some []
  | '\n' :: next => some next
  | '\r' :: '\n' :: next => some next
  | _ => none

/-- The header of a table after its opening brackets, and the rest of its line. -/
def readHeader (characters : List Char) : Option (Statement × List Char) :=
  match characters with
  | '[' :: rest => do
      let ((path, key), rest) ← readKey rest
      match rest with
      | ']' :: ']' :: rest => pure (.item path key, rest)
      | _ => none
  | _ => do
      let ((path, key), rest) ← readKey characters
      match rest with
      | ']' :: rest => pure (.table path key, rest)
      | _ => none

/-- A statement at the start of a line, and the rest of the line. -/
def readStatement (characters : List Char) : Option (Statement × List Char) :=
  match characters with
  | '[' :: rest => readHeader rest
  | _ => do
      let ((path, key, value), rest) ←
        readAssignment (readValue (nestingLimit - 1)) characters
      pure (.assignment path key value, rest)

/-- A line, which may say nothing, and the lines after it. -/
def readLine (characters : List Char) : Option (Option Statement × List Char) :=
  match afterLineEnd? characters with
  | some next => some (none, next)
  | none => do
      let (statement, rest) ← readStatement (afterInlineBlanks characters)
      let next ← afterLineEnd? rest
      pure (some statement, next)

/-- The statements of a file. -/
def readStatements (characters : List Char) : Option (List Statement) :=
  match characters with
  | [] => some []
  | first :: others =>
      match bounded (first :: others).length (readLine (first :: others)) with
      | none => none
      | some line =>
          (readStatements line.rest).map fun statements =>
            line.value.toList ++ statements
termination_by characters.length
decreasing_by
  exact line.length_lt

/-- The characters after a byte order mark, if there is one. -/
def afterByteOrderMark : List Char → List Char
  | '\uFEFF' :: rest => rest
  | rest => rest

/-- The table that a file holds, if it is well formed. -/
def ofText? (text : String) : Option (List (String × Toml)) :=
  (readStatements (afterByteOrderMark text.toList)).bind Draft.ofStatements?

end EventQuery.Toml
