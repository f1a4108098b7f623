import Reckoner.Toml.Scalar

/-! TOML documents: lines with a key and its value, and headers, which name the table of the lines
after them. A key is given once. -/

namespace Reckoner.Toml

mutual

/-- A value in which lists and tables are nested at most `depth` deep; `fuel` bounds the number of
steps. -/
def value : (fuel depth : Nat) → Reader Value
  | 0, _, _ => none
  | fuel + 1, depth, cs =>
    match cs, depth with
    | '"' :: _, _ | '\'' :: _, _ => (string cs).map fun (s, rest) => (.text s, rest)
    | '[' :: _, 0 | '{' :: _, 0 => none
    | '[' :: rest, depth + 1 => (items fuel depth rest).map fun (vs, rest) => (.list vs, rest)
    | '{' :: rest, depth + 1 =>
      match skipBlanks rest with
      | '}' :: rest => some (.table [], rest)
      | rest =>
        (members fuel depth [] rest).map fun (t, rest) => (.table (membersToValues t), rest)
    | cs, _ =>
      ((readMoment cs).map fun (m, rest) => (.moment m, rest)).orElse fun _ => word cs

/-- The items of a list after its opening bracket or a comma, up to the closing bracket. -/
def items : (fuel depth : Nat) → Reader (List Value)
  | 0, _, _ => none
  | fuel + 1, depth, cs => do
    match ← skipLines false cs with
    | ']' :: rest => return ([], rest)
    | cs =>
      let (v, rest) ← value fuel depth cs
      match ← skipLines false rest with
      | ']' :: rest => return ([v], rest)
      | ',' :: rest =>
        let (vs, rest) ← items fuel depth rest
        return (v :: vs, rest)
      | _ => none

/-- The members of a table in braces, added to `t`, up to the closing brace. -/
def members : (fuel depth : Nat) → (t : Table) → Reader Table
  | 0, _, _, _ => none
  | fuel + 1, depth, t, cs => do
    let (k, rest) ← key cs
    match rest with
    | '=' :: rest =>
      let (v, rest) ← value fuel depth (skipBlanks rest)
      let t ← t.insert? k v
      match skipBlanks rest with
      | '}' :: rest => return (t, rest)
      | ',' :: rest => members fuel depth t rest
      | _ => none
    | _ => none

end

inductive Statement where
  | assign (key : List String) (v : Value)
  | header (path : List String)
  | listHeader (path : List String)

/-- A statement up to the end of its line. -/
def statement (fuel : Nat) : Reader Statement
  | '[' :: '[' :: cs => do
    let (path, rest) ← key cs
    match rest with
    | ']' :: ']' :: rest => return (.listHeader path, rest)
    | _ => none
  | '[' :: cs => do
    let (path, rest) ← key cs
    match rest with
    | ']' :: rest => return (.header path, rest)
    | _ => none
  | cs => do
    let (k, rest) ← key cs
    match rest with
    | '=' :: rest =>
      let (v, rest) ← value fuel depthLimit (skipBlanks rest)
      return (.assign k v, rest)
    | _ => none

/-- The statements of a document, at most `fuel` of them. -/
def statements : (fuel : Nat) → List Char → Option (List Statement)
  | 0, _ => none
  | fuel + 1, cs => do
    match ← skipLines false cs with
    | [] => return []
    | cs =>
      let (s, rest) ← statement cs.length cs
      return s :: (← statements fuel (← endLine rest))

/-- The table of a document and the path of the last header, after a statement. -/
def run (state : Table × List String) (s : Statement) : Option (Table × List String) :=
  let (t, current) := state
  match s with
  | .assign key v => (t.modify (Table.insert? key v) current).map fun t => (t, current)
  | .header path =>
    (t.modify (Table.open? (path.getLastD "")) path.dropLast).map fun t => (t, path)
  | .listHeader path =>
    (t.modify (Table.append? (path.getLastD "")) path.dropLast).map fun t => (t, path)

/-- A text without the mark of the byte order at its beginning. -/
def dropMark : List Char → List Char
  | '\ufeff' :: cs => cs
  | cs => cs

/-- The members of the table that a text writes, if it is a TOML document. -/
def read (text : String) : Option (List (String × Value)) := do
  let cs := dropMark text.toList
  let ss ← statements (cs.length + 1) cs
  let (t, _) ← ss.foldlM run ([], [])
  return membersToValues t

end Reckoner.Toml
