import Reckoner.Automaton.Basic
import Reckoner.Token

/-! A lexer: patterns in order of priority, each an automaton for the lexemes of one kind. At every
place of the text all automata run side by side over what follows. An automaton that cannot move on
a character is out for the rest of the attempt, and keeps the longest length at which it accepted.
The longest length of all is the next lexeme; of equally long ones the first pattern's is taken. A
lexeme has at least one character. -/

namespace Reckoner

/-- An automaton for the lexemes of a kind. The lexemes of an ignorable pattern make no tokens. -/
structure Pattern (κ : Type) where
  kind : κ
  automaton : Automaton
  ignorable : Bool
  deriving DecidableEq

/-- Patterns in order of priority. -/
structure Lexer (κ : Type) where
  patterns : List (Pattern κ)
  deriving DecidableEq

/-- No pattern accepts a prefix of the text from `offset` on. -/
structure LexError where
  character : Char
  /-- The number of bytes before the character. -/
  offset : Nat
  position : Position
  deriving DecidableEq

namespace Lexer

variable {κ : Type}

/-- A pattern in an attempt. -/
structure Runner (κ : Type) where
  pattern : Pattern κ
  /-- Whether the automaton has been able to move on every character so far. -/
  running : Bool
  /-- The longest length at which the automaton accepted; zero before it has. -/
  longest : Nat

/-- A pattern at the beginning of an attempt. -/
def Runner.begin (p : Pattern κ) : Runner κ :=
  ⟨{ p with automaton := p.automaton.reset }, true, 0⟩

/-- A runner after the character `c`, the `n`-th of the attempt. A runner that cannot move keeps its
live states. -/
def Runner.step (c : Char) (n : Nat) (r : Runner κ) : Runner κ :=
  if r.running then
    if r.pattern.automaton.canMove c then
      let moved := r.pattern.automaton.apply c
      { r with
        pattern := { r.pattern with automaton := moved }
        longest := if moved.accepts then n else r.longest }
    else { r with running := false }
  else r

/-- The runners after `cs`, which follow the first `n` characters of the attempt. The attempt ends
when no runner is running. -/
def advance (n : Nat) (runners : List (Runner κ)) : List Char → List (Runner κ)
  | [] => runners
  | c :: cs =>
    if runners.any Runner.running then
      advance (n + 1) (runners.map (Runner.step c (n + 1))) cs
    else runners

/-- The runners at the end of an attempt on `cs`. -/
def attempt (patterns : List (Pattern κ)) (cs : List Char) : List (Runner κ) :=
  advance 0 (patterns.map Runner.begin) cs

/-- The outcome of an attempt: a pattern and how many characters its lexeme has. -/
structure Match (κ : Type) where
  pattern : Pattern κ
  length : Nat
  length_pos : 0 < length

/-- The first of the runners with the longest length, if one has accepted. -/
def winner : List (Runner κ) → Option (Match κ)
  | [] => none
  | r :: rs =>
    match winner rs with
    | some m => if h : m.length ≤ r.longest then
        some ⟨r.pattern, r.longest, Nat.lt_of_lt_of_le m.length_pos h⟩
      else some m
    | none => if h : 0 < r.longest then some ⟨r.pattern, r.longest, h⟩ else none

/-- What one pass over a text found. -/
structure Scan (κ : Type) where
  /-- The patterns with the live states of the last attempt. -/
  patterns : List (Pattern κ)
  /-- The tokens found, and whether the pattern of each is ignorable. -/
  found : List (Token κ × Bool)
  /-- Why the pass ended before the end of the text, if it did. -/
  failure : Option LexError

/-- The pass over `cs`, which begins at `offset` in the text that `index` describes. -/
def scan (index : LineIndex) (patterns : List (Pattern κ)) (offset : Nat) :
    (cs : List Char) → Scan κ
  | [] => ⟨patterns, [], none⟩
  | c :: cs =>
    let runners := attempt patterns (c :: cs)
    let after := runners.map Runner.pattern
    match winner runners with
    | none => ⟨after, [], some ⟨c, offset, index.position offset⟩⟩
    | some m =>
      let lexeme := (c :: cs).take m.length
      let stop := offset + Text.byteLength lexeme
      let token : Token κ :=
        ⟨m.pattern.kind, String.ofList lexeme, ⟨offset, stop⟩, index.position offset⟩
      have := m.length_pos
      let rest := scan index after stop ((c :: cs).drop m.length)
      { rest with found := (token, m.pattern.ignorable) :: rest.found }
termination_by cs => cs.length

namespace Scan

/-- All tokens found, or the failure. -/
def allTokens (s : Scan κ) : Except LexError (List (Token κ)) :=
  match s.failure with
  | none => .ok (s.found.map Prod.fst)
  | some e => .error e

/-- The tokens found by patterns that are not ignorable, or the failure. -/
def tokens (s : Scan κ) : Except LexError (List (Token κ)) :=
  match s.failure with
  | none => .ok ((s.found.filter fun (_, ignorable) => !ignorable).map Prod.fst)
  | some e => .error e

end Scan

def empty : Lexer κ := ⟨[]⟩

/-- Adds a pattern of the lowest priority. -/
def register (lexer : Lexer κ) (kind : κ) (automaton : Automaton) (ignorable : Bool) : Lexer κ :=
  ⟨lexer.patterns ++ [⟨kind, automaton, ignorable⟩]⟩

def scanText (lexer : Lexer κ) (text : String) : Scan κ :=
  scan (.ofText text) lexer.patterns 0 text.toList

/-- The tokens of a text without those of ignorable patterns, and the lexer after the pass. -/
def tokenize (lexer : Lexer κ) (text : String) : Lexer κ × Except LexError (List (Token κ)) :=
  let scan := lexer.scanText text
  (⟨scan.patterns⟩, scan.tokens)

/-- All tokens of a text, and the lexer after the pass. -/
def tokenizeAll (lexer : Lexer κ) (text : String) : Lexer κ × Except LexError (List (Token κ)) :=
  let scan := lexer.scanText text
  (⟨scan.patterns⟩, scan.allTokens)

end Lexer

end Reckoner
