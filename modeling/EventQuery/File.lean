/-!
# Contents of files

What goes wrong when a file is read or written, and files that hold text.
-/

namespace EventQuery

/-- Why a file can be neither read nor written, or why it holds no text. -/
inductive FileFault where
  | missing
  /-- A part of the path that is not the last is not a directory. -/
  | notDirectory
  /-- The path leads to a directory. -/
  | isDirectory
  /-- The bytes of the file are not the UTF-8 form of a text. -/
  | notText
  /-- Anything else, in the words of the system. -/
  | other (description : String)
deriving DecidableEq, Repr

/-- The wording of a fault. -/
def FileFault.message : FileFault → String
  | missing => "No such file or directory (os error 2)"
  | notDirectory => "Not a directory (os error 20)"
  | isDirectory => "Is a directory (os error 21)"
  | notText => "stream did not contain valid UTF-8"
  | other description => description

/-- The bytes of a file, or why there are none. -/
abbrev FileContent := Except FileFault ByteArray

/-- The text that a file holds. -/
def FileContent.text (content : FileContent) : Except FileFault String := do
  let bytes ← content
  match String.fromUTF8? bytes with
  | some text => pure text
  | none => throw .notText

end EventQuery
