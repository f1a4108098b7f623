import Reckoner.Expr.Parse

/-! The levels of the grammar as functions that call one another. What a level does is written without a bound
on its calls, which stand for any answers. `Level.nested` follows the calls to a depth. -/

namespace Reckoner

/-- What a level makes of tokens: an expression with what is left, or an error. -/
abbrev Reading : Type := Except ParseError (Expr × Tokens)

namespace Level

/-- What is made of an opening parenthesis and a sum after it. -/
def afterOpening : Reading → Reading
  | .error err => .error err
  | .ok (e, rest) => (rest.consume .rparen).map fun (_, rest') => (e, rest'.val)

/-- What is made of an operand of `level`, with a call if an operator of the level follows. -/
def afterOperand (call : Level → Tokens → Option Reading) (level : Level) :
    Reading → Option Reading
  | .error err => some (.error err)
  | .ok (l, []) => some (.ok (l, []))
  | .ok (l, t :: rest) =>
    match level.operator? t.kind with
    | none => some (.ok (l, t :: rest))
    | some op =>
      (call level rest).map fun right => right.map fun (r, rest') => (.binary op l r, rest')

/-- What a level does with tokens, where `call` answers its calls of levels. There is no result if a call
has no answer. -/
def body (call : Level → Tokens → Option Reading) : Level → Tokens → Option Reading
  | .sum, ts => (call .product ts).bind (afterOperand call .sum)
  | .product, ts => (call .literal ts).bind (afterOperand call .product)
  | .literal, [] => some (.error (.unexpectedEnd .operand))
  | .literal, t :: ts =>
    match t.kind with
    | .num =>
      match Decimal.read t.lexeme with
      | some x => some (.ok (.literal x, ts))
      | none => some (.error (.invalidNumber t))
    | .lparen => (call .sum ts).map afterOpening
    | _ => some (.error (.unexpectedToken .operand t))

/-- The result of a level if its calls nest less than `depth` deep. -/
def nested : (depth : Nat) → Level → Tokens → Option Reading
  | 0 => fun _ _ => none
  | depth + 1 => body (nested depth)

/-- A call with fewer tokens, or with as many at a tighter level. -/
def Smaller (level' : Level) (ts' : Tokens) (level : Level) (ts : Tokens) : Prop :=
  ts'.length < ts.length ∨ ts'.length = ts.length ∧ level'.rank < level.rank

end Level

end Reckoner
