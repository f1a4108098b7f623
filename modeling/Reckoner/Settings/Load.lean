import Reckoner.Files.Tree
import Reckoner.Report.Spec
import Reckoner.Settings.Node
import Reckoner.Toml.Document

/-! Settings from layers: the standard settings, then files, then single values given by hand, which
stand above all files. The merged tree has to fit: a value is converted to what is wanted where
that is possible, and otherwise the error names its place and the file it comes from. -/

namespace Reckoner.Settings

/-- Why there are no settings. -/
inductive LoadError where
  | fileNotFound (name : String)
  | unreadable (e : FileError)
  | malformed (path : String)
  /-- The key of a single value writes no way through the tree. -/
  | badKey (key : String)
  /-- A value cannot be converted. -/
  | wrongType (found expected key : String) (origin : Option String)
  /-- A value stands where a section is wanted. -/
  | noSection (found sectionName : String)
  /-- A list is too short for a section. -/
  | shortSection (length : Nat) (sectionName : String) (fields : Nat)
  /-- A section lacks a field. -/
  | missingField (field : String)
  deriving DecidableEq

def LoadError.message : LoadError → String
  | fileNotFound name => "configuration file \"" ++ name ++ "\" not found"
  | unreadable e => e.message
  | malformed path => "TOML parse error in " ++ path
  | badKey key => "invalid key " ++ Text.quoted key
  | wrongType found expected key origin =>
    "invalid type: " ++ found ++ ", expected " ++ expected ++ " for key `" ++ key ++ "`" ++
      (match origin with
        | some path => " in " ++ path
        | none => "")
  | noSection found sectionName =>
    "invalid type: " ++ found ++ ", expected struct " ++ sectionName
  | shortSection length sectionName fields =>
    "invalid length " ++ toString length ++ ", expected struct " ++ sectionName ++ " with " ++
      toString fields ++ (if fields = 1 then " element" else " elements")
  | missingField field => "missing field `" ++ field ++ "`"

/-! ### Conversions -/

/-- Whether a word stands for true or for false. -/
def truthOfWord (word : String) : Option Bool :=
  if word ∈ ["true", "on", "yes"] then some true
  else if word ∈ ["false", "off", "no"] then some false
  else none

/-- Converts the value at `key` to a truth value. Numbers other than zero are true. -/
def toBool (key : String) : Node → Except LoadError Bool
  | .scalar _ (.bool b) => .ok b
  | .scalar _ (.integer n) => .ok (n ≠ 0)
  | .scalar _ (.float x) => .ok (x != 0)
  | .scalar origin (.text s) =>
    let word := Text.lower s
    if word = "1" then .ok true
    else if word = "0" then .ok false
    else match truthOfWord word with
      | some b => .ok b
      | none => .error (.wrongType ("string " ++ Text.quoted word) "a boolean" key origin)
  | .list origin _ => .error (.wrongType "sequence" "a boolean" key origin)
  | .table origin _ => .error (.wrongType "map" "a boolean" key origin)
  | .missing => .error (.wrongType "unit value" "a boolean" key none)

/-- The natural number below `2 ^ 64` that a text of decimal digits writes, after an optional plus. -/
def naturalOfText (s : String) : Option Nat :=
  let ds := match s.toList with
    | '+' :: ds => ds
    | ds => ds
  let n := Decimal.digitsValue ds
  if !ds.isEmpty && ds.all Char.isDigit && n < UInt64.size then some n else none

/-- Converts the value at `key` to a natural number. A float is rounded, half away from zero, and a
negative one becomes zero. -/
def toNatural (key : String) : Node → Except LoadError Nat
  | .scalar _ (.bool b) => .ok (if b then 1 else 0)
  | .scalar origin (.integer n) =>
    if 0 ≤ n then .ok n.toNat
    else .error (.wrongType ("64-bit integer `" ++ toString n ++ "`")
      "an unsigned 64 bit or less integer" key origin)
  | .scalar _ (.float x) => .ok x.round.toUInt64.toNat
  | .scalar origin (.text s) =>
    match truthOfWord (Text.lower s) with
    | some b => .ok (if b then 1 else 0)
    | none =>
      match naturalOfText s with
      | some n => .ok n
      | none => .error (.wrongType ("string " ++ Text.quoted s) "an integer" key origin)
  | .list origin _ => .error (.wrongType "sequence" "an integer" key origin)
  | .table origin _ => .error (.wrongType "map" "an integer" key origin)
  | .missing => .error (.wrongType "unit value" "an integer" key none)

def toText (key : String) : Node → Except LoadError String
  | .scalar _ value => .ok value.asText
  | .list origin _ => .error (.wrongType "sequence" "a string" key origin)
  | .table origin _ => .error (.wrongType "map" "a string" key origin)
  | .missing => .error (.wrongType "unit value" "a string" key none)

/-- Floats in messages about sections keep a point. -/
def sectionFloat : Decimal.Style := { Decimal.plain with pointZero := true }

/-- How a message about a section calls a single value. -/
def Scalar.description : Scalar → String
  | bool b => "boolean `" ++ (if b then "true" else "false") ++ "`"
  | integer n => "integer `" ++ toString n ++ "`"
  | float x => "floating point `" ++ sectionFloat.text x ++ "`"
  | text s => "string " ++ Text.quoted s

/-- Converts a field of a section, which stands at its name, or at its place in a list. A table may
lack it. -/
def fieldOf {α : Type} (convert : String → Node → Except LoadError α) (sectionKey sectionName : String)
    (names : List String) (name : String) : Node → Except LoadError (Option α)
  | .table _ ms => (ms.lookup name).mapM (convert (sectionKey ++ "." ++ name))
  | .list _ items =>
    let i := names.idxOf name
    match items[i]? with
    | some item => (convert (sectionKey ++ "[" ++ toString i ++ "]") item).map some
    | none => .error (.shortSection i sectionName names.length)
  | .scalar _ value => .error (.noSection value.description sectionName)
  | .missing => .error (.noSection "unit value" sectionName)

/-- The value of a field that has to be there. -/
def present {α : Type} (name : String) : Option α → Except LoadError α
  | some value => .ok value
  | none => .error (.missingField name)

/-- The settings that the merged tree says. The fields of a section that are there are converted
before one that is not is missed. -/
def ofNode (tree : Node) : Except LoadError Settings := do
  let output ← present "output" (tree.member? "output")
  let treeviz ← present "treeviz" (tree.member? "treeviz")
  let outputNames := ["format", "pretty_json"]
  let format ← fieldOf toText "output" "OutputConfig" outputNames "format" output
  let prettyJson ← fieldOf toBool "output" "OutputConfig" outputNames "pretty_json" output
  let format ← present "format" format
  let prettyJson ← present "pretty_json" prettyJson
  let maxLabelChars ←
    fieldOf toNatural "treeviz" "TreevizConfig" ["max_label_chars"] "max_label_chars" treeviz
  let maxLabelChars ← present "max_label_chars" maxLabelChars
  return { format, prettyJson, maxLabelChars }

/-! ### Layers -/

/-- A layer of settings. -/
inductive Layer where
  /-- A file, which may be missing unless it is required. -/
  | file (required : Bool) (path : String)
  | value (key : String) (value : Scalar)

/-- The tree of the standard settings. -/
def standardTree : Node :=
  .table none [
    ("output", .table none [
      ("format", .scalar none (.text standard.format)),
      ("pretty_json", .scalar none (.bool standard.prettyJson))]),
    ("treeviz", .table none [("max_label_chars", .scalar none (.integer standard.maxLabelChars))])]

/-- A path as messages show it, without points for the directory itself. -/
def shownPath (path : String) : String :=
  let parts := (pathParts path).filter (· ≠ ".")
  (if path.startsWith "/" then "/" else "") ++ "/".intercalate parts

/-- The path that is looked for when no file has a name. A directory above has none. -/
def fallbackPath? (path : String) : Option String :=
  match ((pathParts path).filter (· ≠ ".")).getLast? with
  | none => none
  | some last => if last = ".." then none else some (shownPath path ++ ".toml")

/-- The path of the file with a name, which may be given without its extension. -/
def findFile (files : Files) (path : String) : Option String :=
  if files.isFile path then some path else (fallbackPath? path).filter fun p => files.isFile p

/-- Merges a settings file. A file that is not required and cannot be read is left out. -/
def mergePath (tree : Node) (files : Files) (required : Bool) (path : String) :
    Except LoadError Node :=
  match findFile files path with
  | none => if required then .error (.fileNotFound path) else .ok tree
  | some found =>
    match files.readText found with
    | .error e => if required then .error (.unreadable e) else .ok tree
    | .ok text =>
      match Toml.read text with
      | none => .error (.malformed (shownPath found))
      | some document => .ok (tree.mergeFile (shownPath found) document)

/-- Merges the files among the layers. -/
def mergeFiles (files : Files) (tree : Node) : List Layer → Except LoadError Node
  | [] => .ok tree
  | .file required path :: layers =>
    match mergePath tree files required path with
    | .error e => .error e
    | .ok tree => mergeFiles files tree layers
  | .value .. :: layers => mergeFiles files tree layers

/-- The single values among the layers, each with its way. A key that writes no way is an error. -/
def valuesOf : List Layer → Except LoadError (List (List Step × Scalar))
  | [] => .ok []
  | .file .. :: layers => valuesOf layers
  | .value key value :: layers =>
    match pathOfKey key with
    | none => .error (.badKey key)
    | some path => (valuesOf layers).map ((path, value) :: ·)

/-- The settings of the layers over the standard settings. -/
def load (files : Files) (layers : List Layer) : Except LoadError Settings := do
  let values ← valuesOf layers
  let tree ← mergeFiles files standardTree layers
  ofNode (values.foldl (fun tree (path, value) => tree.mergeAt (.scalar none value) path) tree)

end Reckoner.Settings
