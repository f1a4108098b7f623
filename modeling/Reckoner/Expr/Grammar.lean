import Reckoner.Expr.Parse

/-! The grammar of expressions, as a relation between tokens and the expressions that they make up.
It names the operation of each sign, and it does not say how tokens are read. -/

namespace Reckoner

/-- The tokens make up the expression at the level. -/
inductive Level.Derives : Level → Tokens → Expr → Prop
  | number {t : Token TokenKind} {x : Float} :
      t.kind = .num → Decimal.read t.lexeme = some x → Derives .literal [t] (.literal x)
  | parens {t u : Token TokenKind} {ts : Tokens} {e : Expr} :
      t.kind = .lparen → Derives .sum ts e → u.kind = .rparen →
        Derives .literal (t :: ts ++ [u]) e
  | ofLiteral {ts : Tokens} {e : Expr} : Derives .literal ts e → Derives .product ts e
  | mul {ts us : Tokens} {t : Token TokenKind} {l r : Expr} :
      Derives .literal ts l → t.kind = .times → Derives .product us r →
        Derives .product (ts ++ t :: us) (.binary .mul l r)
  | div {ts us : Tokens} {t : Token TokenKind} {l r : Expr} :
      Derives .literal ts l → t.kind = .div → Derives .product us r →
        Derives .product (ts ++ t :: us) (.binary .div l r)
  | ofProduct {ts : Tokens} {e : Expr} : Derives .product ts e → Derives .sum ts e
  | add {ts us : Tokens} {t : Token TokenKind} {l r : Expr} :
      Derives .product ts l → t.kind = .plus → Derives .sum us r →
        Derives .sum (ts ++ t :: us) (.binary .add l r)
  | sub {ts us : Tokens} {t : Token TokenKind} {l r : Expr} :
      Derives .product ts l → t.kind = .minus → Derives .sum us r →
        Derives .sum (ts ++ t :: us) (.binary .sub l r)

namespace Level

/-- The level of the left operands of a level. Literals have none. -/
def operand? : Level → Option Level
  | sum => some product
  | product => some literal
  | literal => none

/-- Whether a token of the kind goes on with an expression of the level, as the sign of the level or
of a tighter one. -/
def continues : Level → TokenKind → Bool
  | sum, kind => kind.isAdditive || kind.isMultiplicative
  | product, kind => kind.isMultiplicative
  | literal, _ => false

variable {level tighter : Level}

theorem continues_iff {kind : TokenKind} (hlevel : level.operand? = some tighter) :
    level.continues kind = false ↔
      level.operator? kind = none ∧ tighter.continues kind = false := by
  cases level <;> cases hlevel <;> cases kind <;>
    simp [operator?, continues, TokenKind.isAdditive, TokenKind.isMultiplicative]

theorem continues_operator {kind : TokenKind} {op : BinaryOp}
    (hlevel : level.operand? = some tighter) (h : level.operator? kind = some op) :
    tighter.continues kind = false := by
  cases level <;> cases hlevel <;> cases kind <;>
    simp_all [operator?, continues, TokenKind.isMultiplicative]

theorem Derives.ofOperand {ts : Tokens} {e : Expr} (hlevel : level.operand? = some tighter)
    (h : tighter.Derives ts e) : level.Derives ts e := by
  cases level <;> cases hlevel
  · exact .ofProduct h
  · exact .ofLiteral h

theorem Derives.binary {ts us : Tokens} {t : Token TokenKind} {op : BinaryOp} {l r : Expr}
    (hlevel : level.operand? = some tighter) (hl : tighter.Derives ts l)
    (hop : level.operator? t.kind = some op) (hr : level.Derives us r) :
    level.Derives (ts ++ t :: us) (.binary op l r) := by
  cases level <;> cases hlevel <;> cases hkind : t.kind <;> rw [hkind] at hop <;> cases hop
  · exact .add hl hkind hr
  · exact .sub hl hkind hr
  · exact .mul hl hkind hr
  · exact .div hl hkind hr

end Level

end Reckoner
