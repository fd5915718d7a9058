import EventQuery.CommandLine.Run

/-!
# Folders in memory

A folder holds files and other folders and is itself the place from which a run
sees them.  Nothing can be reached outside of it.  With a folder a run needs no
disk, and what it wrote can be looked at afterwards.
-/

namespace EventQuery.CommandLine

/-- The files of a folder with the names that lead to them from the folder down. -/
structure Folder where
  files : List (List String × ByteArray)

namespace Folder

/-- The bytes of a file. -/
def file? (folder : Folder) (names : List String) : Option ByteArray :=
  folder.files.lookup names

/-- Whether the names lead to a folder: to this one, or to one on the way to a file. -/
def hasFolder (folder : Folder) (names : List String) : Bool :=
  names.isEmpty ||
    folder.files.any fun file => names.isPrefixOf file.1 && names != file.1

/-- Where a path leads. -/
inductive Place where
  | file (bytes : ByteArray) (names : List String)
  | folder
  /-- A name in a folder that nothing has. -/
  | free (names : List String)
  /-- A name with a slash after it that is no folder, and what reading there comes to. -/
  | slashed (fault : FileFault)
  | nowhere (fault : FileFault)

/-- Where the rest of a path leads from a folder that the names lead to. -/
def follow (folder : Folder) (names : List String) : List String → Place
  | [] => .folder
  | "" :: steps => follow folder names steps
  | "." :: steps => follow folder names steps
  | ".." :: steps =>
      if names.isEmpty then .nowhere .missing else follow folder names.dropLast steps
  | name :: steps =>
      let names := names ++ [name]
      match folder.file? names with
      | some bytes =>
          if steps.isEmpty then
            .file bytes names
          else if steps.all (·.isEmpty) then
            .slashed .notDirectory
          else
            .nowhere .notDirectory
      | none =>
          if folder.hasFolder names then
            follow folder names steps
          else if steps.isEmpty then
            .free names
          else if steps.all (·.isEmpty) then
            .slashed .missing
          else
            .nowhere .missing

/-- The names in a path. -/
def splitPath (path : String) : List String :=
  path.splitOn "/"

/-- Where a path leads. -/
def place (folder : Folder) (path : String) : Place :=
  if path.isEmpty ∨ path.startsWith "/" then
    .nowhere .missing
  else
    folder.follow [] (splitPath path)

/-- The folder with files under some paths. -/
def ofPaths (files : List (String × ByteArray)) : Folder :=
  ⟨files.map fun file => ((splitPath file.1).filter (!·.isEmpty), file.2)⟩

/-- The bytes of the file that a path leads to. -/
def read (folder : Folder) (path : String) : FileContent :=
  match folder.place path with
  | .file bytes _ => pure bytes
  | .folder => throw .isDirectory
  | .free _ => throw .missing
  | .slashed fault => throw fault
  | .nowhere fault => throw fault

/-- The folder with a text in the file that a path leads to, which may be new. -/
def write (folder : Folder) (path text : String) : Except FileFault Folder :=
  let put (names : List String) : Folder :=
    ⟨(names, text.toUTF8) :: folder.files.filter (·.1 != names)⟩
  match folder.place path with
  | .file _ names => pure (put names)
  | .folder => throw .isDirectory
  | .free names => pure (put names)
  | .slashed _ => throw .isDirectory
  | .nowhere fault => throw fault

/-- The host that sees only this folder, an environment, and the other things given. -/
def host
    (environment : Environment)
    (userSettings : FileContent)
    (input : String) :
    Host (StateM Folder) where
  environment := environment
  userSettings := pure userSettings
  readInput := pure (.ok input.toUTF8)
  readFile path := do
    let folder ← get
    pure (folder.read path)
  writeFile path text := do
    let folder ← get
    match folder.write path text with
    | .ok folder => do
        set folder
        pure (.ok ())
    | .error fault => pure (.error fault)

end Folder

end EventQuery.CommandLine
