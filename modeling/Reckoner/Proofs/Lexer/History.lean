import Reckoner.Proofs.Lexer.Scan

/-! A lexer answers every call as if it were new. Calls change nothing but live states and the
patterns that they register, and no answer depends on live states, because an attempt resets an
automaton before it reads a character. -/

namespace Reckoner

/-- The automaton without live states. -/
def Automaton.idle (a : Automaton) : Automaton := { a with live := ∅ }

namespace Pattern

variable {κ : Type}

def idle (p : Pattern κ) : Pattern κ := { p with automaton := p.automaton.idle }

@[simp] theorem idle_reset (p : Pattern κ) : p.reset.idle = p.idle := rfl

@[simp] theorem reset_idle (p : Pattern κ) : p.idle.reset = p.reset := rfl

/-- Patterns that differ in live states only are equal after a reset, and the other way round. -/
theorem map_idle_eq_iff {ps qs : List (Pattern κ)} :
    ps.map idle = qs.map idle ↔ ps.map reset = qs.map reset := by
  constructor
  · intro h
    have hreset := congrArg (List.map reset) h
    simpa [List.map_map, Function.comp_def] using hreset
  · intro h
    have hidle := congrArg (List.map idle) h
    simpa [List.map_map, Function.comp_def] using hidle

end Pattern

namespace Lexer

variable {κ : Type} {lexer other : Lexer κ}

/-- What can be asked of a lexer. -/
inductive Call (κ : Type) where
  | register (kind : κ) (automaton : Automaton) (ignorable : Bool)
  | tokenize (text : String)
  | tokenizeAll (text : String)

/-- The patterns that a call adds. -/
def Call.registered : Call κ → List (Pattern κ)
  | register kind automaton ignorable => [⟨kind, automaton, ignorable⟩]
  | tokenize _ | tokenizeAll _ => []

/-- Tokens or an error; a registration has no answer. -/
abbrev Answer (κ : Type) : Type := Option (Except LexError (List (Token κ)))

/-- The lexer after a call, and the answer. -/
def call (lexer : Lexer κ) : Call κ → Lexer κ × Answer κ
  | .register kind automaton ignorable => (lexer.register kind automaton ignorable, none)
  | .tokenize text => ((lexer.tokenize text).1, some (lexer.tokenize text).2)
  | .tokenizeAll text => ((lexer.tokenizeAll text).1, some (lexer.tokenizeAll text).2)

/-- The lexer after calls one after the other, and their answers. -/
def callAll (lexer : Lexer κ) : List (Call κ) → Lexer κ × List (Answer κ)
  | [] => (lexer, [])
  | c :: cs =>
    let (next, answer) := lexer.call c
    let (last, answers) := next.callAll cs
    (last, answer :: answers)

/-- A new lexer with the patterns, registered in their order, and no live state in any. -/
def fresh (patterns : List (Pattern κ)) : Lexer κ :=
  patterns.foldl (fun lexer p => lexer.register p.kind p.automaton.idle p.ignorable) empty

@[simp] theorem patterns_fresh (patterns : List (Pattern κ)) :
    (fresh patterns).patterns = patterns.map Pattern.idle := by
  have hfold : ∀ lexer : Lexer κ,
      (patterns.foldl (fun lexer p => lexer.register p.kind p.automaton.idle p.ignorable)
        lexer).patterns = lexer.patterns ++ patterns.map Pattern.idle := by
    induction patterns with
    | nil => simp
    | cons p ps ih =>
      intro lexer
      rw [List.foldl_cons, ih]
      simp [register, Pattern.idle]
  exact hfold empty

/-- A pass changes nothing but live states. -/
theorem reset_scan (index : LineIndex) (patterns : List (Pattern κ)) (offset : Nat)
    (cs : List Char) :
    (scan index patterns offset cs).patterns.map Pattern.reset = patterns.map Pattern.reset := by
  -- A pass goes on with the patterns that the attempt before left.
  fun_induction scan index patterns offset cs with
  | case1 => rfl
  | case2 patterns offset c cs => exact reset_attempt patterns (c :: cs)
  | case3 patterns offset c cs runners after m _ _ _ _ _ _ ih =>
    exact ih.trans (reset_attempt patterns (c :: cs))

theorem idle_scanText (lexer : Lexer κ) (text : String) :
    (lexer.scanText text).patterns.map Pattern.idle = lexer.patterns.map Pattern.idle :=
  Pattern.map_idle_eq_iff.2 (reset_scan _ _ _ _)

/-- A call adds the patterns that it registers, and changes nothing but live states in the others. -/
theorem idle_call (lexer : Lexer κ) (c : Call κ) :
    (lexer.call c).1.patterns.map Pattern.idle =
      (lexer.patterns ++ c.registered).map Pattern.idle := by
  cases c with
  | register kind automaton ignorable => rfl
  | tokenize text | tokenizeAll text =>
    rw [Call.registered, List.append_nil]
    exact idle_scanText lexer text

theorem idle_callAll (lexer : Lexer κ) (cs : List (Call κ)) :
    (lexer.callAll cs).1.patterns.map Pattern.idle =
      (lexer.patterns ++ cs.flatMap Call.registered).map Pattern.idle := by
  induction cs generalizing lexer with
  | nil => simp [callAll]
  | cons c cs ih =>
    show ((lexer.call c).1.callAll cs).1.patterns.map Pattern.idle = _
    rw [ih, List.map_append, idle_call, ← List.map_append, List.flatMap_cons, List.append_assoc]

/-- Lexers that differ in live states only answer alike. -/
theorem answer_congr (h : lexer.patterns.map Pattern.idle = other.patterns.map Pattern.idle)
    (c : Call κ) : (lexer.call c).2 = (other.call c).2 := by
  have hscan : ∀ text, (lexer.scanText text).found = (other.scanText text).found ∧
      (lexer.scanText text).failure = (other.scanText text).failure := fun text =>
    scan_congr (Pattern.map_idle_eq_iff.1 h) _ _ _
  cases c with
  | register => rfl
  | tokenize text =>
    obtain ⟨hfound, hfailure⟩ := hscan text
    simp only [call, Lexer.tokenize, Scan.tokens, hfound, hfailure]
  | tokenizeAll text =>
    obtain ⟨hfound, hfailure⟩ := hscan text
    simp only [call, Lexer.tokenizeAll, Scan.allTokens, hfound, hfailure]

theorem answer_callAll (lexer : Lexer κ) (before after : List (Call κ)) (c : Call κ) :
    (lexer.callAll (before ++ c :: after)).2[before.length]? =
      some ((lexer.callAll before).1.call c).2 := by
  induction before generalizing lexer with
  | nil => rfl
  | cons b before ih => exact ih (lexer.call b).1

/-- Whatever calls a lexer has answered, it answers the next one as a fresh lexer with the same
patterns does. Tokenizing a text keeps the patterns, their order, kinds and marks, and all of their
automata but the live states. -/
theorem answers_independent_of_history (lexer : Lexer κ) :
    (∀ (before after : List (Call κ)) (c : Call κ),
      (lexer.callAll (before ++ c :: after)).2[before.length]? =
        some ((fresh (lexer.patterns ++ before.flatMap Call.registered)).call c).2) ∧
    ∀ text : String,
      (lexer.tokenize text).1.patterns.map Pattern.idle = lexer.patterns.map Pattern.idle ∧
      (lexer.tokenizeAll text).1.patterns.map Pattern.idle = lexer.patterns.map Pattern.idle := by
  refine ⟨fun before after c => ?_, fun text => ⟨idle_scanText lexer text, idle_scanText lexer text⟩⟩
  have hsame : (lexer.callAll before).1.patterns.map Pattern.idle =
      (fresh (lexer.patterns ++ before.flatMap Call.registered)).patterns.map Pattern.idle := by
    rw [idle_callAll, patterns_fresh, List.map_map]
    rfl
  rw [answer_callAll, answer_congr hsame]

end Lexer

end Reckoner
