import Reckoner.Text.Position

/-! Tokens: a lexeme with its kind and its place in the text. `Token κ` takes its kinds from any
type; `TokenKind` has those of arithmetic. -/

namespace Reckoner

/-- The kinds of tokens in arithmetic. -/
inductive TokenKind where
  /-- A number with a point and digits after it. -/
  | num
  | plus
  | minus
  | times
  | div
  | lparen
  | rparen
  | whitespace
  deriving DecidableEq

namespace TokenKind

/-- The name that identifies the kind. -/
def name : TokenKind → String
  | num => "Num"
  | plus => "Plus"
  | minus => "Minus"
  | times => "Times"
  | div => "Div"
  | lparen => "LParen"
  | rparen => "RParen"
  | whitespace => "Whitespace"

/-- The short name in a tag. -/
def tag : TokenKind → String
  | num => "num"
  | plus => "plus"
  | minus => "minus"
  | times => "times"
  | div => "div"
  | lparen => "lparen"
  | rparen => "rparen"
  | whitespace => "whitespace"

/-- How messages call the kind. -/
def description : TokenKind → String
  | num => "number"
  | plus => "'+'"
  | minus => "'-'"
  | times => "'*'"
  | div => "'/'"
  | lparen => "'('"
  | rparen => "')'"
  | whitespace => "whitespace"

/-- Addition and subtraction. -/
def isAdditive : TokenKind → Bool
  | plus | minus => true
  | _ => false

/-- Multiplication and division. -/
def isMultiplicative : TokenKind → Bool
  | times | div => true
  | _ => false

def all : List TokenKind := [num, plus, minus, times, div, lparen, rparen, whitespace]

def ofName? (s : String) : Option TokenKind := all.find? fun k => k.name = s

end TokenKind

/-- The bytes of a text from `start` up to `stop`. -/
structure Span where
  start : Nat
  stop : Nat
  deriving DecidableEq

/-- A span as messages show it. -/
def Span.text (s : Span) : String := toString s.start ++ ".." ++ toString s.stop

/-- A lexeme with its kind, the bytes it takes up, and the place of the first of them. -/
structure Token (κ : Type) where
  kind : κ
  lexeme : String
  span : Span
  position : Position
  deriving DecidableEq

/-- A token of arithmetic as a tag. A number shows its lexeme. -/
def Token.tagText (t : Token TokenKind) : String :=
  match t.kind with
  | .num => "<" ++ t.kind.tag ++ ":" ++ t.lexeme ++ ">"
  | _ => "<" ++ t.kind.tag ++ ">"

/-- Tokens in their order. The empty list is the end of the input. -/
abbrev Tokens : Type := List (Token TokenKind)

/-- Tokens with the given kinds and lexemes on one line, the first at `offset` and a blank between
each two. -/
def Tokens.layOutFrom (offset : Nat) : List (TokenKind × String) → Tokens
  | [] => []
  | (kind, lexeme) :: pairs =>
    let stop := offset + lexeme.utf8ByteSize
    ⟨kind, lexeme, ⟨offset, stop⟩, ⟨0, offset⟩⟩ :: layOutFrom (stop + 1) pairs

/-- Tokens with the given kinds and lexemes on one line, a blank between each two. -/
def Tokens.layOut (pairs : List (TokenKind × String)) : Tokens := layOutFrom 0 pairs

end Reckoner
