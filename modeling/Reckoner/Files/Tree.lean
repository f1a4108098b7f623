import Reckoner.Files.Basic

/-! A directory held in memory, as the working directory of a program. Names with slashes stand for
files in directories of their own. -/

namespace Reckoner

/-- The parts of a path between slashes, without empty ones; after a slash at its end the path names
the directory itself, as a point does. -/
def pathParts (path : String) : List String :=
  let parts := path.splitOn "/"
  let named := parts.filter (· ≠ "")
  if parts.getLast? = some "" then named ++ ["."] else named

/-- The files and directories below a working directory, each by the parts of its path. -/
structure FileTree where
  entries : List (List String × Entry)

/-- The most bytes that a name in a path has. -/
def maxNameBytes : Nat := 255

/-- The most bytes that a path has. -/
def maxPathBytes : Nat := 4095

namespace FileTree

/-- The tree with the given names. -/
def ofNames (names : List (String × Entry)) : FileTree :=
  ⟨names.map fun (name, entry) => ((pathParts name).filter (· ≠ "."), entry)⟩

/-- What stands at the path with the given parts. A directory stands above every entry. -/
def entryAt? (tree : FileTree) (parts : List String) : Option Entry :=
  match tree.entries.lookup parts with
  | some entry => some entry
  | none => if tree.entries.any fun (name, _) => parts.isPrefixOf name then some .directory else none

/-- Follows the parts of a path from the directory `here`. Of the directories above the tree nothing
is seen but that they are there. -/
def follow (tree : FileTree) (here : List String) : List String → Except FileError Entry
  | [] => .ok .directory
  | "." :: parts => tree.follow here parts
  | ".." :: parts =>
    if !here.isEmpty then tree.follow here.dropLast parts
    else if parts.all (· ∈ [".", ".."]) then .ok .directory
    else .error .notFound
  | part :: parts =>
    match tree.entryAt? (here ++ [part]) with
    | none => .error (if part.utf8ByteSize ≤ maxNameBytes then .notFound else .nameTooLong)
    | some .directory => tree.follow (here ++ [part]) parts
    | some (.file bytes) => if parts.isEmpty then .ok (.file bytes) else .error .notADirectory

/-- The file system of a program that works in the tree. Of absolute paths only those of the root
are known. -/
def files (tree : FileTree) : Files where
  lookup path :=
    let parts := pathParts path
    if path.isEmpty then .error .notFound
    else if path.contains '\x00' then .error .notAPath
    else if maxPathBytes < path.utf8ByteSize then .error .nameTooLong
    else if path.startsWith "/" then
      if parts.all (· ∈ [".", ".."]) then .ok .directory else .error .notFound
    else tree.follow [] parts

end FileTree

end Reckoner
