/-! The arguments of the command line. A command has a name and positional arguments, and the file
with the settings may be named before the command and among its arguments; the name after the
command counts. After two hyphens every argument of a command is positional. -/

namespace Reckoner.CommandLine

/-- What is to be done. -/
inductive Command where
  /-- A report on a file. -/
  | process (path : String) (format : Option String)
  /-- A report on an argument. -/
  | expr (source : String) (format : Option String)
  /-- The list of the available specs. -/
  | formats
  deriving DecidableEq

/-- What the arguments ask for. -/
inductive Request where
  | version
  | help
  | run (settingsFile : Option String) (command : Command)
  /-- The arguments ask for nothing that there is. -/
  | misuse
  deriving DecidableEq

inductive CommandName where
  | process
  | expr
  | formats
  deriving DecidableEq

namespace CommandName

def ofText? : String → Option CommandName
  | "process" => some process
  | "expr" => some expr
  | "formats" => some formats
  | _ => none

/-- The command with its positional arguments, if these are as many as it takes. -/
def command? : CommandName → List String → Option Command
  | process, [path] => some (.process path none)
  | process, [path, format] => some (.process path (some format))
  | expr, [source] => some (.expr source none)
  | expr, [source, format] => some (.expr source (some format))
  | formats, [] => some .formats
  | _, _ => none

/-- The most positional arguments that the command takes. -/
def capacity : CommandName → Nat
  | process => 2
  | expr => 2
  | formats => 0

end CommandName

inductive Argument where
  /-- A positional argument. A single hyphen is one. -/
  | positional (s : String)
  /-- Two hyphens. -/
  | separator
  /-- The option for the settings file, with its value if it is in the same argument. -/
  | settings (value : Option String)
  | version
  | help
  /-- An option that there is not. -/
  | unknown
  deriving DecidableEq

/-- A value behind a short option; an equals sign may stand before it. -/
def shortValue : List Char → String
  | '=' :: cs => String.ofList cs
  | cs => String.ofList cs

def Argument.ofText (s : String) : Argument :=
  match s.toList with
  | ['-'] => .positional s
  | ['-', '-'] => .separator
  | '-' :: '-' :: long =>
    let name := String.ofList (long.takeWhile (· ≠ '='))
    let value := (long.dropWhile (· ≠ '=')).tail
    let hasValue := long.contains '='
    if name = "config" then .settings (if hasValue then some (String.ofList value) else none)
    else if hasValue then .unknown
    else if name = "version" then .version
    else if name = "help" then .help
    else .unknown
  | ['-', 'c'] => .settings none
  | '-' :: 'c' :: cs => .settings (some (shortValue cs))
  | '-' :: 'V' :: _ => .version
  | '-' :: 'h' :: _ => .help
  | '-' :: _ => .unknown
  | _ => .positional s

/-- Whether an argument may be the value of an option before it. -/
def isValue (s : String) : Bool :=
  match Argument.ofText s with
  | .positional _ => !s.isEmpty
  | _ => false

/-- The request for a command, with the arguments after its name. `outer` is the settings file named
before the command, `inner` the one named after it, and `given` are the positional arguments so
far. -/
def readCommand (name : CommandName) (outer inner : Option String) (given : List String) :
    List String → Request
  | [] =>
    match name.command? given with
    | some command => .run (inner.orElse fun _ => outer) command
    | none => .misuse
  | arg :: args =>
    match Argument.ofText arg with
    | .positional s =>
      if given.length < name.capacity then readCommand name outer inner (given ++ [s]) args
      else .misuse
    | .separator =>
      match name.command? (given ++ args) with
      | some command => .run (inner.orElse fun _ => outer) command
      | none => .misuse
    | .settings (some value) =>
      if value.isEmpty || inner.isSome then .misuse
      else readCommand name outer (some value) given args
    | .settings none =>
      match args with
      | [] => .misuse
      | value :: args =>
        if isValue value && inner.isNone then readCommand name outer (some value) given args
        else .misuse
    | .help => .help
    | .version => .misuse
    | .unknown => .misuse

/-- The request for help, with the arguments after it: none, or the name of a command. -/
def readHelp : List String → Request
  | [] => .help
  | [name] => if name = "help" || (CommandName.ofText? name).isSome then .help else .misuse
  | _ => .misuse

/-- The request of arguments, of which `outer` is the settings file named so far. -/
def readFrom (outer : Option String) : List String → Request
  | [] => .misuse
  | arg :: args =>
    match Argument.ofText arg with
    | .positional s =>
      match CommandName.ofText? s with
      | some name => readCommand name outer none [] args
      | none => if s = "help" then readHelp args else .misuse
    | .settings (some value) =>
      if value.isEmpty || outer.isSome then .misuse else readFrom (some value) args
    | .settings none =>
      match args with
      | [] => .misuse
      | value :: args => if isValue value && outer.isNone then readFrom (some value) args else .misuse
    | .version => .version
    | .help => .help
    | .separator => .misuse
    | .unknown => .misuse

/-- The request that the arguments write. -/
def Request.ofArguments (args : List String) : Request := readFrom none args

end Reckoner.CommandLine
