import Reckoner.CommandLine.Basic

/-! The executable: it reads the files that the arguments name, runs the program on them, and writes
what the run leaves behind. -/

namespace Reckoner

/-- Why a path could not be read, by the number that the system gives the error. The numbers of some
errors are negative. -/
def fileErrorOf (e : IO.Error) : FileError :=
  match e with
  | .noFileOrDirectory .. => .notFound
  | .inappropriateType _ code _ =>
    if code = 21 then .isADirectory else .notADirectory
  | .invalidArgument _ code details =>
    if code = 0 - 36 then .nameTooLong else if code = 22 then .notAPath else .other details
  | .permissionDenied .. => .other "Permission denied (os error 13)"
  | e => .other (toString e)

/-- What stands at a path of the system. -/
def readEntry (path : String) : IO (Except FileError Entry) := do
  try
    return .ok (.file (← IO.FS.readBinFile path))
  catch e =>
    match fileErrorOf e with
    | .isADirectory => return .ok .directory
    | e => return .error e

/-- The file system as seen through the given paths. -/
def readFiles (paths : List String) : IO Files := do
  let entries ← paths.mapM fun path => do return (path, ← readEntry path)
  return ⟨fun path => (entries.lookup path).getD (.error .notFound)⟩

end Reckoner

/-- Runs the program on the arguments and ends with its code. -/
def main (args : List String) : IO UInt32 := do
  let files ← Reckoner.readFiles (Reckoner.CommandLine.pathsOf args)
  let output := Reckoner.CommandLine.run files args
  (← IO.getStdout).putStr output.stdout
  (← IO.getStderr).putStr output.stderr
  return UInt32.ofNat output.code
