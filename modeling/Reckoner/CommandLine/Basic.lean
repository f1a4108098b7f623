import Reckoner.CommandLine.Arguments
import Reckoner.Report.Basic
import Reckoner.Settings.Load
import Reckoner.Text.Lines

/-! The program: what it writes for its arguments, given the files that it finds. The settings are
loaded before a command runs. A text that is no expression is shown around the place of the error,
and other errors in a report are followed by the specs that are available. -/

namespace Reckoner.CommandLine

/-- What a run of the program leaves behind. -/
structure Output where
  code : Nat
  stdout : String
  stderr : String
  deriving DecidableEq

namespace Output

/-- A run that ends well. -/
def success (stdout : String) : Output := ⟨0, stdout, ""⟩

/-- A run that ends with an error. -/
def failure (stderr : String) : Output := ⟨1, "", stderr⟩

end Output

/-- The name and number of the program. -/
def versionText : String := "munch 0.1.0\n"

/-- How the program is called. -/
def usageText : String :=
  "Usage: munch [--config FILE] process PATH [FORMAT]\n" ++
  "       munch [--config FILE] expr SOURCE [FORMAT]\n" ++
  "       munch [--config FILE] formats\n"

def formatList : String :=
  "Available formats:\n" ++ String.join (Spec.available.map fun spec => "  " ++ spec.text ++ "\n")

/-- A text that ends with a line break. -/
def endLine (s : String) : String := if s.endsWith "\n" then s else s ++ "\n"

/-- What is written about an error in a report on `source`. -/
def reportFailure (source : String) (e : ReportError) : String :=
  "Error: " ++ e.message ++ "\n" ++
    match e with
    | .syntactic e =>
      match e.position? with
      | some p => "\n" ++ Text.excerpt source p ++ "\n"
      | none => ""
    | _ => "\n" ++ formatList

/-- A report on a text, in the format that is asked for or that the settings say. -/
def report (settings : Settings) (source : String) (format : Option String) : Output :=
  let result : Except ReportError String :=
    match Spec.ofText (format.getD settings.format) with
    | .error e => .error (.spec e)
    | .ok spec => Report.ofText settings spec source
  match result with
  | .ok text => .success (endLine text)
  | .error e => .failure (reportFailure source e)

def runCommand (files : Files) (settings : Settings) : Command → Output
  | .process path format =>
    match files.readText path with
    | .error e => .failure ("Error: failed to read " ++ path ++ ": " ++ e.message ++ "\n")
    | .ok source => report settings source format
  | .expr source format => report settings source format
  | .formats => .success formatList

/-- The layers of settings that a run has. -/
def settingsLayers (settingsFile : Option String) : List Settings.Layer :=
  match settingsFile with
  | some path => [.file true path]
  | none => []

/-- Does what is asked for. -/
def runRequest (files : Files) : Request → Output
  | .version => .success versionText
  | .help => .success usageText
  | .misuse => ⟨2, "", usageText⟩
  | .run settingsFile command =>
    match Settings.load files (settingsLayers settingsFile) with
    | .error e => .failure ("Error: " ++ e.message ++ "\n")
    | .ok settings => runCommand files settings command

def run (files : Files) (args : List String) : Output := runRequest files (.ofArguments args)

/-- The paths that a run of the program may look at. -/
def pathsOf (args : List String) : List String :=
  match Request.ofArguments args with
  | .run settingsFile command =>
    let settings := match settingsFile with
      | some path => path :: (Settings.fallbackPath? path).toList
      | none => []
    let source := match command with
      | .process path _ => [path]
      | _ => []
    settings ++ source
  | _ => []

end Reckoner.CommandLine
