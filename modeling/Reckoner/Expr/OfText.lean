import Reckoner.Event
import Reckoner.Expr.Parse
import Reckoner.Lexer.Arithmetic

/-! Expressions from text: the lexer of arithmetic, then the parser, with the events that both
report. -/

namespace Reckoner

/-- The tokens of a text, with blanks or without them. The lexer reports each lexeme, and its end
unless it fails. -/
def Tokens.traceText (raw : Bool) (text : String) : Traced (Except LexError Tokens) :=
  let scan := Lexer.arithmetic.scanText text
  let found := scan.found.map fun (t, _) => Event.matched t
  match if raw then scan.allTokens else scan.tokens with
  | .error e => ⟨found, .error e⟩
  | .ok ts =>
    ⟨found ++ [.tokenized text.length ts.length Lexer.arithmetic.patterns.length], .ok ts⟩

namespace Expr

/-- The expression that all of the tokens make up. The parser reports each token it takes. -/
def traceTokens (ts : Tokens) : Traced (Except ParseError Expr) :=
  ⟨.parsing ts.length :: (Level.sum.parse ts).taken.map .consumed, ofTokens ts⟩

/-- The expression that a text writes. -/
def traceText (text : String) : Traced (Except SyntaxError Expr) :=
  (Tokens.traceText false text).bind fun
    | .error e => .pure (.error (.lexical e))
    | .ok ts => (traceTokens ts).map fun r => r.mapError .grammatical

/-- The expression that a text writes. -/
def ofText (text : String) : Except SyntaxError Expr := (traceText text).value

end Expr

/-- The value of the expression that a text writes. -/
def evaluate (text : String) : Except SyntaxError Float := (Expr.ofText text).map Expr.eval

end Reckoner
