import Reckoner.Toml.Moment

/-! Values of TOML documents, and the tables of a document while it is read. A table remembers how it
came to be, because a header may complete a table that stands only above another header's, and
dotted keys may extend only tables that dotted keys made. -/

namespace Reckoner.Toml

inductive Value where
  | text (s : String)
  | integer (n : Int)
  | float (x : Float)
  | bool (b : Bool)
  | moment (m : Moment)
  | list (items : List Value)
  | table (members : List (String × Value))
  deriving Inhabited

/-- How a table came to be. -/
inductive Origin where
  /-- It stands above the table of a header. -/
  | implied
  /-- A header names it. -/
  | header
  /-- A dotted key passes through it. -/
  | dotted
  deriving DecidableEq

/-- A member of a table while the document is read. -/
inductive Item where
  | value (v : Value)
  | table (origin : Origin) (members : List (String × Item))
  /-- The tables of the headers in double brackets, the last first. -/
  | tables (reversed : List (List (String × Item)))
  deriving Inhabited

/-- A table while the document is read. -/
abbrev Table : Type := List (String × Item)

namespace Table

/-- The table with a member replaced, or added at the end. -/
def put (t : Table) (name : String) (item : Item) : Table :=
  if t.any fun (n, _) => n = name then t.map fun (n, i) => if n = name then (n, item) else (n, i)
  else t ++ [(name, item)]

/-- Changes the table at the end of a path of headers, which is made where it is missing. Of tables
in double brackets the last is meant. -/
def modify (f : Table → Option Table) : List String → Table → Option Table
  | [], t => f t
  | name :: path, t =>
    match t.lookup name with
    | none => (modify f path []).map fun inner => t.put name (.table .implied inner)
    | some (.table origin inner) =>
      (modify f path inner).map fun inner => t.put name (.table origin inner)
    | some (.tables (last :: earlier)) =>
      (modify f path last).map fun last => t.put name (.tables (last :: earlier))
    | some (.tables []) => none
    | some (.value _) => none

/-- Names a table by a header. A table that a header or dotted keys made, and any other value, may
not be named again. -/
def open? (name : String) (t : Table) : Option Table :=
  match t.lookup name with
  | none => some (t.put name (.table .header []))
  | some (.table .implied inner) => some (t.put name (.table .header inner))
  | some _ => none

/-- Adds a table to those of a header in double brackets. -/
def append? (name : String) (t : Table) : Option Table :=
  match t.lookup name with
  | none => some (t.put name (.tables [[]]))
  | some (.tables earlier) => some (t.put name (.tables ([] :: earlier)))
  | some _ => none

/-- Adds a member that is not there yet. -/
def add? (name : String) (v : Value) (t : Table) : Option Table :=
  match t.lookup name with
  | none => some (t ++ [(name, .value v)])
  | some _ => none

/-- Adds a member below tables that dotted keys name. `made` says that the table at hand was made
by dotted keys, which the last of them has to be. -/
def addDotted? (v : Value) (made : Bool) : List String → Table → Option Table
  | [], _ => none
  | [name], t => if made then t.add? name v else none
  | name :: path, t =>
    match t.lookup name with
    | none => (addDotted? v true path []).map fun inner => t.put name (.table .dotted inner)
    | some (.table .header _) => none
    | some (.table origin inner) =>
      (addDotted? v (origin = .dotted) path inner).map fun inner =>
        t.put name (.table origin inner)
    | some (.tables (last :: earlier)) =>
      (addDotted? v false path last).map fun last => t.put name (.tables (last :: earlier))
    | some (.tables []) => none
    | some (.value _) => none

/-- Adds a member by its key, which may be dotted. -/
def insert? (key : List String) (v : Value) (t : Table) : Option Table :=
  match key with
  | [name] => t.add? name v
  | key => addDotted? v false key t

end Table

mutual

/-- A member of a table that is read to its end. -/
def Item.toValue : Item → Value
  | .value v => v
  | .table _ members => .table (membersToValues members)
  | .tables reversed => .list (tablesToValues reversed).reverse

/-- The members of a table that is read to its end. -/
def membersToValues : List (String × Item) → List (String × Value)
  | [] => []
  | (name, item) :: rest => (name, item.toValue) :: membersToValues rest

/-- Tables that are read to their end. -/
def tablesToValues : List (List (String × Item)) → List Value
  | [] => []
  | members :: rest => .table (membersToValues members) :: tablesToValues rest

end

end Reckoner.Toml
