import Reckoner.Lexer.Basic

/-! The lexer of arithmetic: numbers with a point, four operators, parentheses, and blanks, which
are ignorable. -/

namespace Reckoner

namespace Automaton

def decimalDigits : List Char := "0123456789".toList

/-- Digits, a point, and at least one digit. State 1 is in the integer part, state 2 just past the
point, and state 3 in the fraction, where the number may end. -/
def number : Automaton :=
  ofLists [(0, true, false), (1, false, false), (2, false, false), (3, false, true)]
    (decimalDigits.flatMap (fun d => [(0, d, 1), (1, d, 1)]) ++ [(0, '.', 2), (1, '.', 2)] ++
      decimalDigits.flatMap fun d => [(2, d, 3), (3, d, 3)])

def single (c : Char) : Automaton := ofLists [(0, true, false), (1, false, true)] [(0, c, 1)]

/-- The blanks between tokens. -/
def blankChars : List Char := [' ', '\n', '\r', '\t']

/-- Any number of blanks, none included. -/
def blanks : Automaton := ofLists [(0, true, true)] (blankChars.map fun c => (0, c, 0))

end Automaton

namespace Lexer

def arithmeticPatterns : List (Pattern TokenKind) := [
  ⟨.num, .number, false⟩,
  ⟨.plus, .single '+', false⟩,
  ⟨.minus, .single '-', false⟩,
  ⟨.times, .single '*', false⟩,
  ⟨.div, .single '/', false⟩,
  ⟨.lparen, .single '(', false⟩,
  ⟨.rparen, .single ')', false⟩,
  ⟨.whitespace, .blanks, true⟩]

def arithmetic : Lexer TokenKind := ⟨arithmeticPatterns⟩

end Lexer

/-- The tokens of an arithmetic text, without blanks. -/
def lex (text : String) : Except LexError Tokens := (Lexer.arithmetic.tokenize text).2

/-- The tokens of an arithmetic text, blanks included. -/
def lexAll (text : String) : Except LexError Tokens := (Lexer.arithmetic.tokenizeAll text).2

end Reckoner
