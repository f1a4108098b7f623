import Reckoner.Text.Position

/-! The lines of a text, and the excerpt that an error report shows: the line of the error, marked
and with a caret under the column, between the two lines before it and the two after it. -/

namespace Reckoner.Text

/-- The lines of `cs`. A line ends at a line feed, and a carriage return just before the line feed
is not part of it. After the last line feed there is a line only if characters follow. -/
def splitLines : List Char → List (List Char)
  | [] => []
  | '\n' :: cs => [] :: splitLines cs
  | '\r' :: '\n' :: cs => [] :: splitLines cs
  | c :: cs =>
    match splitLines cs with
    | [] => [[c]]
    | line :: lines => (c :: line) :: lines

def lines (text : String) : List String := (splitLines text.toList).map String.ofList

def blanks (n : Nat) : String := String.ofList (List.replicate n ' ')

/-- A number in at least three columns, flush right. -/
def gutterNumber (n : Nat) : String :=
  let digits := toString n
  blanks (3 - digits.length) ++ digits

/-- The width of what an excerpt writes in front of a line whose number has up to three digits. -/
def gutterWidth : Nat := 9

/-- One line of an excerpt at `p`; `i` counts the lines of the text from zero. -/
def excerptLine (p : Position) (i : Nat) (line : String) : String :=
  if i = p.line then
    ">> " ++ gutterNumber (i + 1) ++ " | " ++ line ++ "\n" ++ blanks (p.column + gutterWidth) ++ "^\n"
  else
    "   " ++ gutterNumber (i + 1) ++ " | " ++ line ++ "\n"

/-- The lines of `text` at most two away from the line of `p`, with that line marked. -/
def excerpt (text : String) (p : Position) : String :=
  let first := p.line - 2
  let shown := ((lines text).take (p.line + 3)).drop first
  String.join (shown.mapIdx fun k line => excerptLine p (first + k) line)

end Reckoner.Text
