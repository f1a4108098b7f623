import Reckoner.Decimal.Reader
import Reckoner.Error
import Reckoner.Expr.Basic

/-! Expressions from tokens. A sum is a product, or a product, a sign of addition or subtraction, and
a sum; a product is a literal, or a literal, a sign of multiplication or division, and a product; a
literal is a number or a sum in parentheses. So signs of one level group to the right. Each level
reads from the left and looks one token ahead. -/

namespace Reckoner

/-- What is left of `ts` after at least one token. -/
abbrev Tokens.Rest (ts : Tokens) : Type := { rest : Tokens // rest.length < ts.length }

/-- The first token, which must have the expected kind, and the tokens after it. -/
def Tokens.consume (expected : TokenKind) :
    (ts : Tokens) → Except ParseError (Token TokenKind × ts.Rest)
  | [] => .error (.unexpectedEnd (.token expected))
  | t :: ts =>
    if t.kind = expected then .ok (t, ⟨ts, by simp⟩)
    else .error (.unexpectedToken (.token expected) t)

/-- The levels of the grammar, the loosest first. -/
inductive Level where
  | sum
  | product
  | literal
  deriving DecidableEq

namespace Level

/-- How far a level is above the literals. -/
def rank : Level → Nat
  | sum => 2
  | product => 1
  | literal => 0

/-- The operation that a token means between the operands of a level. -/
def operator? : Level → TokenKind → Option BinaryOp
  | sum, .plus => some .add
  | sum, .minus => some .sub
  | product, .times => some .mul
  | product, .div => some .div
  | _, _ => none

end Level

/-- What a level made of the tokens `ts`. -/
structure Outcome (ts : Tokens) where
  /-- The tokens taken, in the order in which they were taken. -/
  taken : Tokens
  /-- The expression and what is left, or the error. -/
  result : Except ParseError (Expr × ts.Rest)

namespace Outcome

/-- A number token as an expression. -/
def ofNumber (t : Token TokenKind) (ts : Tokens) : Outcome (t :: ts) where
  taken := [t]
  result :=
    match Decimal.read t.lexeme with
    | some x => .ok (.literal x, ⟨ts, by simp⟩)
    | none => .error (.invalidNumber t)

/-- An expression in parentheses, of which `t` is the opening one and `inner` came after it. -/
def close (t : Token TokenKind) {ts : Tokens} (inner : Outcome ts) : Outcome (t :: ts) :=
  match inner.result with
  | .error e => ⟨t :: inner.taken, .error e⟩
  | .ok (e, ⟨rest, shorter⟩) =>
    match rest.consume .rparen with
    | .error e => ⟨t :: inner.taken, .error e⟩
    | .ok (u, ⟨rest', shorter'⟩) =>
      ⟨t :: inner.taken ++ [u], .ok (e, ⟨rest', by simp only [List.length_cons]; omega⟩)⟩

/-- An operand of `level`, and if an operator of the level follows, the operation on it and what
`more` makes of the tokens after the operator. -/
def join (level : Level) {ts : Tokens} (operand : Outcome ts)
    (more : (rest : Tokens) → rest.length < ts.length → Outcome rest) : Outcome ts :=
  match operand.result with
  | .error _ => operand
  | .ok (_, ⟨[], _⟩) => operand
  | .ok (left, ⟨t :: rest, shorter⟩) =>
    match level.operator? t.kind with
    | none => operand
    | some op =>
      have shorter : rest.length < ts.length := by simp only [List.length_cons] at shorter; omega
      let right := more rest shorter
      { taken := operand.taken ++ t :: right.taken
        result := right.result.map fun (e, ⟨rest', shorter'⟩) =>
          (.binary op left e, ⟨rest', Nat.lt_trans shorter' shorter⟩) }

end Outcome

/-- Reads an expression of the given level from the beginning of the tokens. -/
def Level.parse : (level : Level) → (ts : Tokens) → Outcome ts
  | .sum, ts => (Level.parse .product ts).join .sum fun rest _ => Level.parse .sum rest
  | .product, ts => (Level.parse .literal ts).join .product fun rest _ => Level.parse .product rest
  | .literal, [] => ⟨[], .error (.unexpectedEnd .operand)⟩
  | .literal, t :: ts =>
    match t.kind with
    | .num => .ofNumber t ts
    | .lparen => (Level.parse .sum ts).close t
    | _ => ⟨[], .error (.unexpectedToken .operand t)⟩
termination_by level ts => 3 * ts.length + level.rank
decreasing_by all_goals simp only [Level.rank, List.length_cons]; omega

/-- The expression that all of the tokens make up. -/
def Expr.ofTokens (ts : Tokens) : Except ParseError Expr :=
  match (Level.sum.parse ts).result with
  | .error e => .error e
  | .ok (e, ⟨[], _⟩) => .ok e
  | .ok (_, ⟨t :: _, _⟩) => .error (.trailingToken t)

end Reckoner
