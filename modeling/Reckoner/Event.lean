import Reckoner.Report.Spec
import Reckoner.Text.Escape
import Reckoner.Token

/-! What the work on a text reports as it goes on. A computation that reports is a value with the
events before it, in order. -/

namespace Reckoner

/-- How much detail a log takes in. -/
inductive LogLevel where
  | debug
  | trace
  deriving DecidableEq

def LogLevel.name : LogLevel → String
  | debug => "DEBUG"
  | trace => "TRACE"

/-- Something that happened in the work on a text. -/
inductive Event where
  /-- The lexer found a lexeme, of an ignorable pattern or not. -/
  | matched (t : Token TokenKind)
  /-- The lexer came to the end of the text. -/
  | tokenized (chars tokens patterns : Nat)
  /-- The parser begins. -/
  | parsing (tokens : Nat)
  /-- The parser took a token. -/
  | consumed (t : Token TokenKind)
  /-- A report begins. -/
  | processing (bytes : Nat) (spec : Spec)
  deriving DecidableEq

namespace Event

/-- The level of an event: single lexemes and tokens are detail. -/
def level : Event → LogLevel
  | matched _ | consumed _ => .trace
  | tokenized .. | parsing _ | processing .. => .debug

def message : Event → String
  | matched t => "munch " ++ t.kind.name ++ " " ++ Text.quoted t.lexeme ++ " at " ++ t.span.text
  | tokenized chars tokens patterns =>
    "tokenized " ++ toString chars ++ " chars into " ++ toString tokens ++ " tokens with " ++
      toString patterns ++ " patterns"
  | parsing tokens => "parsing " ++ toString tokens ++ " tokens"
  | consumed t => "consume " ++ t.kind.name ++ " " ++ Text.quoted t.lexeme
  | processing bytes spec => "processing " ++ toString bytes ++ " bytes as " ++ spec.text

end Event

/-- A value and the events before it. -/
structure Traced (α : Type) where
  events : List Event
  value : α

namespace Traced

def pure {α : Type} (a : α) : Traced α := ⟨[], a⟩

/-- Reports an event, then goes on. -/
def report {α : Type} (e : Event) (t : Traced α) : Traced α := { t with events := e :: t.events }

/-- Goes on with the value. -/
def bind {α β : Type} (t : Traced α) (f : α → Traced β) : Traced β :=
  let u := f t.value
  ⟨t.events ++ u.events, u.value⟩

/-- The value under `f`. -/
def map {α β : Type} (f : α → β) (t : Traced α) : Traced β := ⟨t.events, f t.value⟩

/-- The events that a log at the given level takes in. -/
def log {α : Type} (level : LogLevel) (t : Traced α) : List Event :=
  t.events.filter fun e => level = .trace || e.level = .debug

end Traced

end Reckoner
