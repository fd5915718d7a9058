/-!
# Arguments of the command line

The arguments name one of four commands, with options before and after the
name, and at most one operand after it.  An option that takes a path has it in
the same argument or in the next one.  After two dashes alone every argument
is an operand.
-/

namespace EventQuery.CommandLine

/-- What to do, and with what. -/
inductive Command where
  /-- Print the tree of a query, on a single line if it is to be compact. -/
  | parse (query : Option String) (compact : Bool)
  /-- Print a query in its canonical form. -/
  | format (query : Option String)
  /-- Check every line of a file of queries. -/
  | check (path : String)
  /-- Give a settings file to start from. -/
  | config (output : Option String)
deriving DecidableEq, Repr

/-- A command and the settings file that was asked for. -/
structure Invocation where
  configPath : Option String
  command : Command
deriving DecidableEq, Repr

/-- Why no command is done. -/
inductive Halt where
  /-- The arguments name no command, or not what it needs. -/
  | misuse
  | help
  | version
deriving DecidableEq, Repr

/-- The names of commands. -/
inductive CommandName where
  | parse
  | format
  | check
  | config
deriving DecidableEq, Repr

/-- The command of a name. -/
def CommandName.ofText? : String → Option CommandName
  | "parse" => some parse
  | "format" => some format
  | "check" => some check
  | "config" => some config
  | _ => none

/-- The options. -/
inductive Switch where
  | config
  | output
  | compact
  | help
  | version
deriving DecidableEq, Repr

namespace Switch

/-- The name of an option after two dashes. -/
def longName : Switch → String
  | config => "config"
  | output => "output"
  | compact => "compact"
  | help => "help"
  | version => "version"

/-- The letter of an option after one dash. -/
def letter? : Switch → Option Char
  | config => some 'c'
  | output => some 'o'
  | compact => none
  | help => some 'h'
  | version => some 'V'

/-- Whether a path belongs to the option. -/
def takesPath : Switch → Bool
  | config => true
  | output => true
  | _ => false

/-- The options in front of the name of a command, or after it. -/
def allowed : Option CommandName → List Switch
  | none => [config, help, version]
  | some .parse => [config, compact, help]
  | some .config => [config, output, help]
  | some _ => [config, help]

end Switch

/-- What an argument is. -/
inductive Reading where
  /-- An option, with the path that stands in the same argument. -/
  | switch (which : Switch) (path : Option String)
  | unknownSwitch
  /-- Two dashes alone. -/
  | separator
  | operand

namespace Reading

/-- The option of a long name, perhaps with a path after an equals sign. -/
def ofLong (switches : List Switch) (name : String) (path : Option String) : Reading :=
  match switches.find? (·.longName == name) with
  | some which =>
      if path.isSome && !which.takesPath then unknownSwitch else switch which path
  | none => unknownSwitch

/-- A path right after the letter of an option, perhaps with an equals sign before it. -/
def attachedPath? : List Char → Option String
  | [] => none
  | '=' :: path => some (String.ofList path)
  | path => some (String.ofList path)

/-- The option of a letter, perhaps with a path right after it. -/
def ofLetter (switches : List Switch) (letter : Char) (attached : List Char) : Reading :=
  match switches.find? (·.letter? == some letter) with
  | some which =>
      switch which (if which.takesPath then attachedPath? attached else none)
  | none => unknownSwitch

/-- What an argument is where only some options may stand. -/
def ofArgument (switches : List Switch) (argument : String) : Reading :=
  match argument.toList with
  | ['-', '-'] => separator
  | '-' :: '-' :: rest =>
      let path :=
        match rest.dropWhile (· != '=') with
        | _ :: path => some (String.ofList path)
        | [] => none
      ofLong switches (String.ofList (rest.takeWhile (· != '='))) path
  | '-' :: letter :: attached => ofLetter switches letter attached
  | _ => operand

end Reading

/-- The options that were read. -/
structure Chosen where
  config : Option String := none
  output : Option String := none
  compact : Bool := false

namespace Chosen

/-- A path for an option that has none yet; it must not be empty. -/
def path (former : Option String) (path : String) : Except Halt (Option String) :=
  if former.isSome || path.isEmpty then throw .misuse else pure (some path)

/-- The options with a path for one more of them. -/
def addPath (chosen : Chosen) (which : Switch) (value : String) : Except Halt Chosen :=
  match which with
  | .config => do
      let config ← path chosen.config value
      pure { chosen with config }
  | .output => do
      let output ← path chosen.output value
      pure { chosen with output }
  | _ => throw .misuse

/-- The options with one more that takes no path. -/
def addFlag (chosen : Chosen) (which : Switch) : Except Halt Chosen :=
  match which with
  | .compact =>
      if chosen.compact then throw .misuse else pure { chosen with compact := true }
  | .help => throw .help
  | .version => throw .version
  | _ => throw .misuse

end Chosen

/-- The options at the start of some arguments, and the arguments from the first operand on. -/
def readSwitches
    (switches : List Switch)
    (chosen : Chosen) :
    List String → Except Halt (Chosen × List String)
  | [] => pure (chosen, [])
  | argument :: rest =>
      match Reading.ofArgument switches argument with
      | .operand => pure (chosen, argument :: rest)
      | .separator => pure (chosen, argument :: rest)
      | .unknownSwitch => throw .misuse
      | .switch which (some path) => do
          let chosen ← chosen.addPath which path
          readSwitches switches chosen rest
      | .switch which none =>
          if which.takesPath then
            match rest with
            | path :: others =>
                match Reading.ofArgument switches path with
                | .operand => do
                    let chosen ← chosen.addPath which path
                    readSwitches switches chosen others
                | _ => throw .misuse
            | [] => throw .misuse
          else do
            let chosen ← chosen.addFlag which
            readSwitches switches chosen rest

/-- Refuses an operand that the command does not take; a path must not be empty. -/
def CommandName.admitOperand (name : CommandName) (operand : String) : Except Halt Unit :=
  match name with
  | .parse => pure ()
  | .format => pure ()
  | .check => if operand.isEmpty then throw .misuse else pure ()
  | .config => throw .misuse

/-- The options and the operand after the name of a command. -/
def readOperand
    (name : CommandName)
    (arguments : List String) :
    Except Halt (Chosen × Option String) := do
  let switches := Switch.allowed (some name)
  let (chosen, rest) ← readSwitches switches {} arguments
  match rest with
  | [] => pure (chosen, none)
  | ["--"] => pure (chosen, none)
  | ["--", operand] => do
      name.admitOperand operand
      pure (chosen, some operand)
  | "--" :: _ => throw .misuse
  | operand :: rest => do
      name.admitOperand operand
      let (chosen, rest) ← readSwitches switches chosen rest
      match rest with
      | [] => pure (chosen, some operand)
      | ["--"] => pure (chosen, some operand)
      | _ => throw .misuse

/-- The command of a name with its options and its operand. -/
def CommandName.command
    (name : CommandName)
    (chosen : Chosen)
    (operand : Option String) :
    Except Halt Command :=
  match name with
  | .parse => pure (.parse operand chosen.compact)
  | .format => pure (.format operand)
  | .check =>
      match operand with
      | some path => pure (.check path)
      | none => throw .misuse
  | .config => pure (.config chosen.output)

/--
The command that some arguments ask for.  A settings file after the name of the
command goes before one in front of it.
-/
def Invocation.ofArguments (arguments : List String) : Except Halt Invocation := do
  let (before, rest) ← readSwitches (Switch.allowed none) {} arguments
  match rest with
  | [] => throw .misuse
  | "help" :: topics =>
      match topics with
      | [] => throw .help
      | [topic] =>
          if topic = "help" ∨ (CommandName.ofText? topic).isSome then
            throw .help
          else
            throw .misuse
      | _ => throw .misuse
  | word :: rest =>
      match CommandName.ofText? word with
      | none => throw .misuse
      | some name => do
          let (after, operand) ← readOperand name rest
          let command ← name.command after operand
          pure ⟨after.config.or before.config, command⟩

end EventQuery.CommandLine
