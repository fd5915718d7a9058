import EventQuery.Toml.Value

/-!
# Sections of a configuration file

A file builds up one table from headers and assignments.  Which later line may
extend a table depends on how the table came about, so tables under
construction remember it.  No key is ever defined twice.
-/

namespace EventQuery.Toml

/-- How a table came about. -/
inductive Origin where
  /-- By a header of its own. -/
  | header
  /-- As a parent of a table with a header. -/
  | parent
  /-- By a dotted key. -/
  | dottedKey
deriving DecidableEq

/-- A value or a table under construction. -/
inductive Node where
  | value (known : Toml)
  | table (origin : Origin) (entries : List (String × Node))
  /-- The tables of an array, each with a header of its own. -/
  | tables (items : List (List (String × Node)))

/-- The entries of a table under construction. -/
abbrev Entries := List (String × Node)

namespace Node

mutual

/-- The value that a node stands for when the file ends. -/
def toToml : Node → Toml
  | value known => known
  | table _ entries => .table (entriesToToml entries)
  | tables items => .array (tablesToToml items)

/-- The entries of a finished table. -/
def entriesToToml : List (String × Node) → List (String × Toml)
  | [] => []
  | (key, node) :: others => (key, node.toToml) :: entriesToToml others

/-- The items of a finished array of tables. -/
def tablesToToml : List (List (String × Node)) → List Toml
  | [] => []
  | entries :: others => .table (entriesToToml entries) :: tablesToToml others

end

end Node

namespace Entries

/-- The node of a key. -/
def find? (entries : Entries) (key : String) : Option Node :=
  match entries with
  | [] => none
  | (name, node) :: others => if name = key then some node else find? others key

/-- The entries with the node of a key replaced, or added at the end. -/
def set (entries : Entries) (key : String) (node : Node) : Entries :=
  match entries with
  | [] => [(key, node)]
  | (name, old) :: others =>
      if name = key then
        (name, node) :: others
      else
        (name, old) :: set others key node

/--
Changes the table at the end of a path.  Tables that are missing on the way
come about as `created`; of an array of tables the last one is meant.  A path
of dotted keys does not lead through tables with a header of their own.
-/
def update
    (created : Origin)
    (change : Origin → Entries → Option Entries)
    (origin : Origin)
    (entries : Entries) :
    List String → Option Entries
  | [] => change origin entries
  | key :: path =>
      match find? entries key with
      | none =>
          (update created change created [] path).map fun inner =>
            set entries key (.table created inner)
      | some (.value _) => none
      | some (.table inside inner) =>
          if created = .dottedKey ∧ inside = .header then
            none
          else
            (update created change inside inner path).map fun inner =>
              set entries key (.table inside inner)
      | some (.tables items) =>
          (update created change .header (items.getLastD []) path).map fun inner =>
            set entries key (.tables (items.dropLast ++ [inner]))

/--
Assigns a value to a key, dotted or not.  A dotted key extends only tables that
came about by dotted keys.
-/
def assign
    (path : List String)
    (key : String)
    (value : Toml)
    (entries : Entries) :
    Option Entries :=
  update .dottedKey
    (fun origin inner =>
      if path ≠ [] ∧ origin ≠ .dottedKey then
        none
      else
        match find? inner key with
        | none => some (set inner key (.value value))
        | some _ => none)
    .header entries path

/-- Opens a table by its header. -/
def openTable (path : List String) (key : String) (entries : Entries) :
    Option Entries :=
  update .parent
    (fun _ inner =>
      match find? inner key with
      | none => some (set inner key (.table .header []))
      | some (.table .parent own) => some (set inner key (.table .header own))
      | some _ => none)
    .header entries path

/-- Opens one more table of an array by its header. -/
def openItem (path : List String) (key : String) (entries : Entries) :
    Option Entries :=
  update .parent
    (fun _ inner =>
      match find? inner key with
      | none => some (set inner key (.tables [[]]))
      | some (.tables items) => some (set inner key (.tables (items ++ [[]])))
      | some _ => none)
    .header entries path

end Entries

/-- One line of a configuration file that says something. -/
inductive Statement where
  /-- Assigns a value to the last key of a path. -/
  | assignment (path : List String) (key : String) (value : Toml)
  /-- Opens a table, given by its parents and its key. -/
  | table (path : List String) (key : String)
  /-- Opens a further table of an array. -/
  | item (path : List String) (key : String)

/-- A file under construction: what there is, and the path of the open table. -/
structure Draft where
  entries : Entries
  current : List String

namespace Draft

/-- The draft after one more statement, if the statement is allowed. -/
def extend (draft : Draft) : Statement → Option Draft
  | .assignment path key value =>
      (Entries.update .parent (fun _ inner => Entries.assign path key value inner)
        .header draft.entries draft.current).map fun entries =>
          { draft with entries := entries }
  | .table path key =>
      (Entries.openTable path key draft.entries).map fun entries =>
        ⟨entries, path ++ [key]⟩
  | .item path key =>
      (Entries.openItem path key draft.entries).map fun entries =>
        ⟨entries, path ++ [key]⟩

/-- The table that some statements build. -/
def ofStatements? (statements : List Statement) : Option (List (String × Toml)) :=
  (statements.foldlM extend ⟨[], []⟩).map fun draft =>
    Node.entriesToToml draft.entries

end Draft

/-- The table of the assignments between two braces. -/
def inlineTable? (assignments : List (List String × String × Toml)) : Option Toml :=
  (assignments.foldlM
    (fun entries (assignment : List String × String × Toml) =>
      Entries.assign assignment.1 assignment.2.1 assignment.2.2 entries)
    []).map fun entries => .table (Node.entriesToToml entries)

end EventQuery.Toml
