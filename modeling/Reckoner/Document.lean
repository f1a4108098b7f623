import Reckoner.Decimal.Style

/-! Values as JSON text, on one line or indented. -/

namespace Reckoner

/-- A value to be written as JSON. The members of an object keep their order. -/
inductive Document where
  | text (s : String)
  | count (n : Nat)
  | number (x : Float)
  | list (items : List Document)
  | object (members : List (String × Document))
  deriving Inhabited

namespace Document

def hexDigit (n : Nat) : Char := Nat.digitChar n

/-- A character inside a JSON string. -/
def escapeChar (c : Char) : List Char :=
  match c with
  | '"' => ['\\', '"']
  | '\\' => ['\\', '\\']
  | '\x08' => ['\\', 'b']
  | '\x0c' => ['\\', 'f']
  | '\n' => ['\\', 'n']
  | '\r' => ['\\', 'r']
  | '\t' => ['\\', 't']
  | c =>
    if c.toNat < 0x20 then ['\\', 'u', '0', '0', hexDigit (c.toNat / 16), hexDigit (c.toNat % 16)]
    else [c]

def string (s : String) : String :=
  String.ofList (['"'] ++ s.toList.flatMap escapeChar ++ ['"'])

mutual

/-- A value on one line, without blanks. -/
def compact : Document → String
  | text s => string s
  | count n => toString n
  | number x => Decimal.json.text x
  | list items => "[" ++ ",".intercalate (compactItems items) ++ "]"
  | object members => "\x7b" ++ ",".intercalate (compactMembers members) ++ "\x7d"

/-- The items of a list on one line. -/
def compactItems : List Document → List String
  | [] => []
  | d :: ds => d.compact :: compactItems ds

/-- The members of an object on one line. -/
def compactMembers : List (String × Document) → List String
  | [] => []
  | (name, d) :: ds => (string name ++ ":" ++ d.compact) :: compactMembers ds

end

/-- A line break and `indent` blanks. -/
def newline (indent : Nat) : String := "\n" ++ String.ofList (List.replicate indent ' ')

/-- Parts on lines of their own between brackets, which stand `indent` blanks deep. -/
def bracketed (opening closing : String) (indent : Nat) (parts : List String) : String :=
  if parts.isEmpty then opening ++ closing
  else
    opening ++ newline (indent + 2) ++ ("," ++ newline (indent + 2)).intercalate parts ++
      newline indent ++ closing

mutual

/-- A value that begins `indent` blanks deep, its items and members on lines of their own. -/
def prettyAt (indent : Nat) : Document → String
  | text s => string s
  | count n => toString n
  | number x => Decimal.json.text x
  | list items => bracketed "[" "]" indent (prettyItems (indent + 2) items)
  | object members => bracketed "\x7b" "\x7d" indent (prettyMembers (indent + 2) members)

/-- The items of a list, each `indent` blanks deep. -/
def prettyItems (indent : Nat) : List Document → List String
  | [] => []
  | d :: ds => d.prettyAt indent :: prettyItems indent ds

/-- The members of an object, each `indent` blanks deep. -/
def prettyMembers (indent : Nat) : List (String × Document) → List String
  | [] => []
  | (name, d) :: ds => (string name ++ ": " ++ d.prettyAt indent) :: prettyMembers indent ds

end

/-- A value with its items and members on lines of their own. -/
def pretty (d : Document) : String := d.prettyAt 0

end Document

end Reckoner
