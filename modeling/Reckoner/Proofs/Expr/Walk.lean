import Reckoner.Proofs.Expr.Depth
import Reckoner.Proofs.Expr.Grammar

/-! The order of an expression's parts. A walk meets the left operand, then the operation, then the
right operand. It meets what the tokens say, one part for each token that is no parenthesis, so a
parser loses no token, uses none twice and keeps their order. -/

namespace Reckoner

/-- A part of an expression: a literal, or an operation without its operands. -/
inductive Expr.Part where
  | number (value : Float)
  | sign (op : BinaryOp)
  deriving DecidableEq

namespace Expr

/-- The parts from left to right. -/
def walk : Expr → List Part
  | literal x => [.number x]
  | binary op l r => l.walk ++ .sign op :: r.walk

@[simp] theorem walk_literal (x : Float) : (literal x).walk = [.number x] := rfl

@[simp] theorem walk_binary (op : BinaryOp) (l r : Expr) :
    (binary op l r).walk = l.walk ++ .sign op :: r.walk := rfl

theorem length_walk (e : Expr) : e.walk.length = e.nodeCount := by
  induction e with
  | literal x => rfl
  | binary op l r ihl ihr =>
    simp only [walk_binary, List.length_append, List.length_cons, ihl, ihr, nodeCount]
    omega

end Expr

/-- The part that a token stands for. Parentheses and blanks stand for none, and neither does a
number that cannot be read. -/
def Token.part? (t : Token TokenKind) : Option Expr.Part :=
  match t.kind with
  | .num => (Decimal.read t.lexeme).map .number
  | .plus => some (.sign .add)
  | .minus => some (.sign .sub)
  | .times => some (.sign .mul)
  | .div => some (.sign .div)
  | .lparen | .rparen | .whitespace => none

namespace Tokens

/-- The tokens that are no parentheses. -/
def withoutParens (ts : Tokens) : Tokens := ts.filter fun t => t.kind ≠ .lparen ∧ t.kind ≠ .rparen

variable {t : Token TokenKind}

@[simp] theorem withoutParens_nil : withoutParens [] = [] := rfl

@[simp] theorem withoutParens_append (ts us : Tokens) :
    withoutParens (ts ++ us) = withoutParens ts ++ withoutParens us :=
  List.filter_append ts us

theorem withoutParens_cons_of_paren (h : t.kind = .lparen ∨ t.kind = .rparen) (ts : Tokens) :
    withoutParens (t :: ts) = withoutParens ts := by
  apply List.filter_cons_of_neg
  rcases h with h | h <;> simp [h]

theorem withoutParens_cons (h : t.kind ≠ .lparen ∧ t.kind ≠ .rparen) (ts : Tokens) :
    withoutParens (t :: ts) = t :: withoutParens ts := by
  apply List.filter_cons_of_pos
  simp [h]

end Tokens

namespace Level

variable {level : Level} {ts us : Tokens} {t : Token TokenKind} {l r e : Expr} {op : BinaryOp}

/-- An operation's parts are those of its operands around its sign. -/
theorem walk_join (ht : t.part? = some (.sign op)) (hkind : t.kind ≠ .lparen ∧ t.kind ≠ .rparen)
    (hl : (ts.withoutParens).map Token.part? = l.walk.map some)
    (hr : (us.withoutParens).map Token.part? = r.walk.map some) :
    (Tokens.withoutParens (ts ++ t :: us)).map Token.part? =
      (Expr.binary op l r).walk.map some := by
  rw [Tokens.withoutParens_append, Tokens.withoutParens_cons hkind, List.map_append, List.map_cons,
    hl, hr, ht, Expr.walk_binary, List.map_append, List.map_cons]

theorem Derives.walk (h : level.Derives ts e) :
    (ts.withoutParens).map Token.part? = e.walk.map some := by
  induction h with
  | @number t x hkind hx =>
    have hpart : t.part? = some (.number x) := by simp [Token.part?, hkind, hx]
    rw [Tokens.withoutParens_cons (by simp [hkind])]
    simp [hpart]
  | parens hopen _ hclose ih =>
    rw [List.cons_append, Tokens.withoutParens_cons_of_paren (.inl hopen),
      Tokens.withoutParens_append, Tokens.withoutParens_cons_of_paren (.inr hclose),
      Tokens.withoutParens_nil, List.append_nil]
    exact ih
  | ofLiteral _ ih | ofProduct _ ih => exact ih
  | mul _ ht _ ihl ihr | div _ ht _ ihl ihr | add _ ht _ ihl ihr | sub _ ht _ ihl ihr =>
    exact walk_join (by rw [Token.part?, ht]) (by simp [ht]) ihl ihr

end Level

/-- The walk of the expression that tokens make up meets exactly what the tokens stand for, in their
order, when the parentheses are taken out. So the nodes are as many as the tokens that are no
parentheses. The parentheses match. -/
theorem Expr.ofTokens_walk (ts : Tokens) (e : Expr) (h : ofTokens ts = .ok e) :
    (ts.withoutParens).map Token.part? = e.walk.map some ∧
      e.nodeCount = ts.withoutParens.length ∧ ts.Balanced := by
  have hderives := ofTokens_iff.1 h
  have hwalk := hderives.walk
  refine ⟨hwalk, ?_, hderives.balanced⟩
  have hlength := congrArg List.length hwalk
  rw [List.length_map, List.length_map, length_walk] at hlength
  exact hlength.symm

/-- The tokens of `(1.5 - (.5)) * 2.5 / 4.5`. -/
theorem Expr.ofTokens_walk_nested :
    let ts := Tokens.layOut [(.lparen, "("), (.num, "1.5"), (.minus, "-"), (.lparen, "("),
      (.num, ".5"), (.rparen, ")"), (.rparen, ")"), (.times, "*"), (.num, "2.5"), (.div, "/"),
      (.num, "4.5")]
    ∃ e, ofTokens ts = .ok e ∧ e.nodeCount = 7 ∧ ts.Balanced ∧
      e.walk = [.number 1.5, .sign .sub, .number 0.5, .sign .mul, .number 2.5, .sign .div,
        .number 4.5] := by
  intro ts
  have hsome : (ofTokens ts).toOption.isSome := by decide +kernel
  obtain ⟨e, he⟩ : ∃ e, ofTokens ts = .ok e := by
    cases h : ofTokens ts with
    | ok e => exact ⟨e, rfl⟩
    | error err => rw [h] at hsome; cases hsome
  obtain ⟨hwalk, hcount, hbalanced⟩ := ofTokens_walk ts e he
  refine ⟨e, he, hcount, hbalanced, ?_⟩
  have hparts : (ts.withoutParens).map Token.part? =
      [Part.number 1.5, .sign .sub, .number 0.5, .sign .mul, .number 2.5, .sign .div,
        .number 4.5].map some := by decide +kernel
  exact (List.map_inj_right fun _ _ => Option.some.inj).1 (hwalk.symm.trans hparts)

end Reckoner
