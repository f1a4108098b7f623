import Reckoner.Lexer.Basic
import Reckoner.Text.Escape

/-! Why a text is no arithmetic expression. The lexer and the parser stop at the first error from the
left, and each error says where it is. -/

namespace Reckoner

def LexError.message (e : LexError) : String :=
  "unexpected character " ++ Text.quotedSingle e.character ++ " at " ++ e.position.text

/-- What the parser could have gone on with. -/
inductive Expected where
  | token (kind : TokenKind)
  /-- A number or an opening parenthesis. -/
  | operand
  deriving DecidableEq

/-- How messages call what is expected. -/
def Expected.description : Expected → String
  | .token kind => kind.description
  | .operand => "number or '('"

/-- Why tokens are no expression. -/
inductive ParseError where
  /-- Another token than expected. -/
  | unexpectedToken (expected : Expected) (found : Token TokenKind)
  /-- No token where one is expected. -/
  | unexpectedEnd (expected : Expected)
  /-- A token after a complete expression. -/
  | trailingToken (found : Token TokenKind)
  /-- A number token whose lexeme is no number. -/
  | invalidNumber (found : Token TokenKind)
  deriving DecidableEq

namespace ParseError

/-- The place of the error. The end of the input has none. -/
def position? : ParseError → Option Position
  | unexpectedToken _ t => some t.position
  | unexpectedEnd _ => none
  | trailingToken t => some t.position
  | invalidNumber t => some t.position

def message : ParseError → String
  | unexpectedToken expected t =>
    "expected " ++ expected.description ++ ", found " ++ t.kind.description ++ " " ++
      Text.quoted t.lexeme ++ " at " ++ t.position.text
  | unexpectedEnd expected => "expected " ++ expected.description ++ ", found end of input"
  | trailingToken t =>
    "unexpected " ++ t.kind.description ++ " " ++ Text.quoted t.lexeme ++ " at " ++
      t.position.text ++ " after a complete expression"
  | invalidNumber t => "invalid number " ++ Text.quoted t.lexeme ++ " at " ++ t.position.text

end ParseError

/-- Why a text is no expression. -/
inductive SyntaxError where
  | lexical (e : LexError)
  | grammatical (e : ParseError)
  deriving DecidableEq

namespace SyntaxError

/-- The place of the error, if it has one. -/
def position? : SyntaxError → Option Position
  | lexical e => some e.position
  | grammatical e => e.position?

def message : SyntaxError → String
  | lexical e => "lexical error: " ++ e.message
  | grammatical e => "parse error: " ++ e.message

end SyntaxError

end Reckoner
