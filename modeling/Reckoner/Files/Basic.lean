/-! What a program sees of a file system: for each path an entry, or why there is none. -/

namespace Reckoner

/-- Why a path cannot be read. -/
inductive FileError where
  | notFound
  /-- The path goes through a file. -/
  | notADirectory
  | isADirectory
  /-- A name in the path is longer than names may be. -/
  | nameTooLong
  /-- The path has a null character. -/
  | notAPath
  /-- The bytes encode no text. -/
  | notText
  /-- Any other reason, in words. -/
  | other (reason : String)
  deriving DecidableEq

def FileError.message : FileError → String
  | notFound => "No such file or directory (os error 2)"
  | notADirectory => "Not a directory (os error 20)"
  | isADirectory => "Is a directory (os error 21)"
  | nameTooLong => "File name too long (os error 36)"
  | notAPath => "file name contained an unexpected NUL byte"
  | notText => "stream did not contain valid UTF-8"
  | other reason => reason

inductive Entry where
  | file (bytes : ByteArray)
  | directory

/-- A file system as seen through its paths. -/
structure Files where
  lookup : String → Except FileError Entry

namespace Files

def readText (files : Files) (path : String) : Except FileError String :=
  match files.lookup path with
  | .error e => .error e
  | .ok .directory => .error .isADirectory
  | .ok (.file bytes) =>
    match String.fromUTF8? bytes with
    | some text => .ok text
    | none => .error .notText

def isFile (files : Files) (path : String) : Bool :=
  match files.lookup path with
  | .ok (.file _) => true
  | _ => false

end Files

end Reckoner
