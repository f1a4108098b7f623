import Reckoner.Decimal.Style
import Reckoner.Text.Lower
import Reckoner.Text.Escape
import Reckoner.Toml.Value

/-! Settings before they are understood: a tree of named values, into which the layers of settings
are merged one after the other. Names are in lower case. A value takes the place of what stood
there, and a table is merged into the table that stands there. -/

namespace Reckoner.Settings

inductive Scalar where
  | bool (b : Bool)
  | integer (n : Int)
  | float (x : Float)
  | text (s : String)

namespace Scalar

def asText : Scalar → String
  | bool b => if b then "true" else "false"
  | integer n => toString n
  | float x => Decimal.plain.text x
  | text s => s

end Scalar

/-- A value in the tree of settings. `origin` is the path of the file that it comes from; a table
that files are merged into comes from none of them. -/
inductive Node where
  /-- An item that only fills up a list. -/
  | missing
  | scalar (origin : Option String) (value : Scalar)
  | list (origin : Option String) (items : List Node)
  | table (origin : Option String) (members : List (String × Node))
  deriving Inhabited

/-- The members of a table, each with its name. -/
abbrev Members : Type := List (String × Node)

/-- The table with a member replaced, or added at the end. -/
def Members.put (ms : Members) (name : String) (node : Node) : Members :=
  if ms.any fun (n, _) => n = name then ms.map fun (n, x) => if n = name then (n, node) else (n, x)
  else ms ++ [(name, node)]

namespace Node

/-- The table without members that no file wrote. -/
def emptyTable : Node := .table none []

/-- The member of a table with the given name. What is no table has none. -/
def member? : Node → String → Option Node
  | .table _ ms, name => ms.lookup name
  | _, _ => none

/-- A table with a member replaced or added. What is no table becomes one. -/
def putMember (node : Node) (name : String) (value : Node) : Node :=
  match node with
  | .table origin ms => .table origin (Members.put ms name value)
  | _ => .table none [(name, value)]

mutual

/-- Puts a value at a name of a table. -/
def merge (node : Node) (name : String) : Node → Node
  | .table _ incoming =>
    node.putMember name (mergeAll ((node.member? name).getD emptyTable) incoming)
  | .missing => node.putMember name .missing
  | .scalar origin value => node.putMember name (.scalar origin value)
  | .list origin items => node.putMember name (.list origin items)

/-- Puts values at names of a table. What is no table becomes one with the first of them. -/
def mergeAll (node : Node) : List (String × Node) → Node
  | [] => node
  | (name, value) :: rest => mergeAll (merge node name value) rest

end

/-- The items of a list. What is no list has none. -/
def items : Node → List Node
  | .list _ items => items
  | _ => []

/-- The place in a list of `length` items that an index means; from `-1` on downwards it counts from
the end. -/
def place? (length : Nat) (index : Int) : Option Nat :=
  if 0 ≤ index then some index.toNat
  else if index.natAbs ≤ length then some (length - index.natAbs)
  else none

/-- A list with the item at a place replaced, filled up to that place where it is too short. What is
no list becomes one. -/
def putItem (node : Node) (place : Nat) (value : Node) : Node :=
  let origin := match node with
    | .list origin _ => origin
    | _ => none
  let filled := node.items ++ List.replicate (place + 1 - node.items.length) .missing
  .list origin (filled.set place value)

end Node

/-- A step on a way through the tree. -/
inductive Step where
  | name (name : String)
  | index (index : Int)

/-- Puts a value at the end of a way, through tables and lists that are made where something else
stands. An index before the beginning of a list leads nowhere. -/
def Node.mergeAt (node : Node) (value : Node) : List Step → Node
  | [] => node
  | [.name name] => node.merge name value
  | .name name :: path =>
    node.putMember name (((node.member? name).getD .missing).mergeAt value path)
  | .index i :: path =>
    match Node.place? node.items.length i with
    | none => node
    | some place =>
      let item := match path with
        | [] => value
        | path => ((node.items[place]?).getD .missing).mergeAt value path
      node.putItem place item

/-- Whether a character may stand in a name of a way. -/
def isNameChar (c : Char) : Bool := c.isAlphanum || c = ' ' || c = '_' || c = '-'

/-- The integer between the brackets of an index, with blanks around it. -/
def indexOfChars (cs : List Char) : Option Int :=
  let isBlank (c : Char) : Bool := c = ' ' || c = '\t'
  let cs := ((cs.dropWhile isBlank).reverse.dropWhile isBlank).reverse
  let (negative, ds) := match cs with
    | '-' :: ds => (true, ds)
    | ds => (false, ds)
  if ds.isEmpty || !ds.all Char.isDigit then none
  else
    let n : Int := Decimal.digitsValue ds
    let n := if negative then -n else n
    if Int64.minValue.toInt ≤ n && n ≤ Int64.maxValue.toInt then some n else none

/-- The steps after the first: a point and a name, or an index in brackets. At most `fuel` of them
are read. -/
def stepsFrom : (fuel : Nat) → List Char → Option (List Step)
  | _, [] => some []
  | 0, _ => none
  | fuel + 1, '.' :: cs =>
    let name := cs.takeWhile isNameChar
    if name.isEmpty then none
    else (stepsFrom fuel (cs.dropWhile isNameChar)).map (.name (String.ofList name) :: ·)
  | fuel + 1, '[' :: cs =>
    match indexOfChars (cs.takeWhile (· ≠ ']')), cs.dropWhile (· ≠ ']') with
    | some i, ']' :: rest => (stepsFrom fuel rest).map (.index i :: ·)
    | _, _ => none
  | _, _ => none

/-- The way that a key writes: a name, then names behind points and indices in brackets. -/
def pathOfKey (key : String) : Option (List Step) :=
  let cs := '.' :: (Text.lower key).toList
  stepsFrom cs.length cs

mutual

/-- A value of a settings file. -/
def nodeOfToml (origin : String) : Toml.Value → Node
  | .text s => .scalar (some origin) (.text s)
  | .integer n => .scalar (some origin) (.integer n)
  | .float x => .scalar (some origin) (.float x)
  | .bool b => .scalar (some origin) (.bool b)
  | .moment m => .scalar (some origin) (.text m.text)
  | .list items => .list (some origin) (nodesOfToml origin items)
  | .table members => .table (some origin) (membersOfToml origin members)

/-- The items of a list in a settings file. -/
def nodesOfToml (origin : String) : List Toml.Value → List Node
  | [] => []
  | v :: vs => nodeOfToml origin v :: nodesOfToml origin vs

/-- The members of a table in a settings file. -/
def membersOfToml (origin : String) : List (String × Toml.Value) → List (String × Node)
  | [] => []
  | (name, v) :: rest => (Text.lower name, nodeOfToml origin v) :: membersOfToml origin rest

end

/-- Merges the members of a settings file. The name of a member may be a way. -/
def Node.mergeFile (node : Node) (origin : String) (file : List (String × Toml.Value)) : Node :=
  (membersOfToml origin file).foldl
    (fun node (name, value) => node.mergeAt value ((pathOfKey name).getD [.name name])) node

end Reckoner.Settings
