import Reckoner.Expr.Grammar

/-! Reading an expression as a relation: a rule for each way in which a level ends, with the tokens
that it takes and either the expression and what is left or the error. The parser follows the
rules, and the rules leave no choice, `Level.reads_iff`. Facts about the parser are proved by
induction on the rules. -/

namespace Reckoner

/-- What a level makes of the tokens: the tokens that it takes, and the expression with what is left
or the error. -/
inductive Level.Reads : Level → Tokens → Tokens → Except ParseError (Expr × Tokens) → Prop
  | number {t : Token TokenKind} {ts : Tokens} {x : Float} :
      t.kind = .num → Decimal.read t.lexeme = some x →
        Reads .literal (t :: ts) [t] (.ok (.literal x, ts))
  | noNumber {t : Token TokenKind} {ts : Tokens} :
      t.kind = .num → Decimal.read t.lexeme = none →
        Reads .literal (t :: ts) [t] (.error (.invalidNumber t))
  | noOperand {t : Token TokenKind} {ts : Tokens} :
      t.kind ≠ .num → t.kind ≠ .lparen →
        Reads .literal (t :: ts) [] (.error (.unexpectedToken .operand t))
  | missingOperand : Reads .literal [] [] (.error (.unexpectedEnd .operand))
  | parens {t u : Token TokenKind} {ts taken rest : Tokens} {e : Expr} :
      t.kind = .lparen → Reads .sum ts taken (.ok (e, u :: rest)) → u.kind = .rparen →
        Reads .literal (t :: ts) (t :: taken ++ [u]) (.ok (e, rest))
  | noClosing {t u : Token TokenKind} {ts taken rest : Tokens} {e : Expr} :
      t.kind = .lparen → Reads .sum ts taken (.ok (e, u :: rest)) → u.kind ≠ .rparen →
        Reads .literal (t :: ts) (t :: taken) (.error (.unexpectedToken (.token .rparen) u))
  | missingClosing {t : Token TokenKind} {ts taken : Tokens} {e : Expr} :
      t.kind = .lparen → Reads .sum ts taken (.ok (e, [])) →
        Reads .literal (t :: ts) (t :: taken) (.error (.unexpectedEnd (.token .rparen)))
  | inParens {t : Token TokenKind} {ts taken : Tokens} {err : ParseError} :
      t.kind = .lparen → Reads .sum ts taken (.error err) →
        Reads .literal (t :: ts) (t :: taken) (.error err)
  | alone {level tighter : Level} {ts taken rest : Tokens} {e : Expr} :
      level.operand? = some tighter → Reads tighter ts taken (.ok (e, rest)) →
        (∀ t ∈ rest.head?, level.operator? t.kind = none) →
        Reads level ts taken (.ok (e, rest))
  | inOperand {level tighter : Level} {ts taken : Tokens} {err : ParseError} :
      level.operand? = some tighter → Reads tighter ts taken (.error err) →
        Reads level ts taken (.error err)
  | binary {level tighter : Level} {ts taken us taken' rest : Tokens} {t : Token TokenKind}
      {op : BinaryOp} {l r : Expr} :
      level.operand? = some tighter → Reads tighter ts taken (.ok (l, t :: us)) →
        level.operator? t.kind = some op → Reads level us taken' (.ok (r, rest)) →
        Reads level ts (taken ++ t :: taken') (.ok (.binary op l r, rest))
  | inRight {level tighter : Level} {ts taken us taken' : Tokens} {t : Token TokenKind}
      {op : BinaryOp} {l : Expr} {err : ParseError} :
      level.operand? = some tighter → Reads tighter ts taken (.ok (l, t :: us)) →
        level.operator? t.kind = some op → Reads level us taken' (.error err) →
        Reads level ts (taken ++ t :: taken') (.error err)

/-- The result of an outcome, without the bound on what is left. -/
def Outcome.view {ts : Tokens} (o : Outcome ts) : Except ParseError (Expr × Tokens) :=
  o.result.map fun (e, rest) => (e, rest.val)

namespace Level

/-- The rules leave no choice. -/
theorem Reads.unique {level : Level} {ts taken taken' : Tokens}
    {result result' : Except ParseError (Expr × Tokens)} (h : level.Reads ts taken result)
    (h' : level.Reads ts taken' result') : taken = taken' ∧ result = result' := by
  induction h generalizing taken' result' with
  | number => cases h' <;> simp_all [operand?]
  | noNumber => cases h' <;> simp_all [operand?]
  | noOperand => cases h' <;> simp_all [operand?]
  | missingOperand => cases h' <;> simp_all [operand?]
  | parens _ _ _ ih => cases h' <;> grind [operand?]
  | noClosing _ _ _ ih => cases h' <;> grind [operand?]
  | missingClosing _ _ ih => cases h' <;> grind [operand?]
  | inParens _ _ ih => cases h' <;> grind [operand?]
  | alone _ _ _ ih => cases h' <;> grind [operand?]
  | inOperand _ _ ih => cases h' <;> grind [operand?]
  | binary _ _ _ _ ih ih' => cases h' <;> grind [operand?]
  | inRight _ _ _ _ ih ih' => cases h' <;> grind [operand?]

/-- Parentheses follow the rules if what they enclose does. -/
theorem reads_close {t : Token TokenKind} {ts : Tokens} {inner : Outcome ts}
    (hkind : t.kind = .lparen) (h : Reads .sum ts inner.taken inner.view) :
    Reads .literal (t :: ts) (inner.close t).taken (inner.close t).view := by
  unfold Outcome.view at h
  unfold Outcome.close
  split
  next err herr =>
    rw [herr] at h
    exact .inParens hkind h
  next e rest shorter hok =>
    rw [hok] at h
    cases rest with
    | nil => exact .missingClosing hkind h
    | cons u rest =>
      by_cases hu : u.kind = .rparen
      · simp only [Tokens.consume, hu, if_true]
        exact .parens hkind h hu
      · simp only [Tokens.consume, hu, if_false]
        exact .noClosing hkind h hu

/-- An operation follows the rules if its operands do. -/
theorem reads_join {level tighter : Level} (hlevel : level.operand? = some tighter) {ts : Tokens}
    {operand : Outcome ts} {more : (rest : Tokens) → rest.length < ts.length → Outcome rest}
    (h : tighter.Reads ts operand.taken operand.view)
    (hmore : ∀ rest shorter, level.Reads rest (more rest shorter).taken (more rest shorter).view) :
    level.Reads ts (operand.join level more).taken (operand.join level more).view := by
  have hview : operand.view = operand.result.map fun (e, rest) => (e, rest.val) := rfl
  unfold Outcome.join
  split
  next err herr =>
    rw [hview, herr] at h
    simp only [Outcome.view, herr]
    exact .inOperand hlevel h
  next e shorter hok =>
    rw [hview, hok] at h
    simp only [Outcome.view, hok]
    exact .alone hlevel h fun t ht => nomatch ht
  next l t rest shorter hok =>
    rw [hview, hok] at h
    split
    next hnone =>
      simp only [Outcome.view, hok]
      refine .alone hlevel h fun u hu => ?_
      obtain rfl : t = u := Option.some.inj hu
      exact hnone
    next op hop =>
      have hright := hmore rest (by simp only [List.length_cons] at shorter; omega)
      unfold Outcome.view at hright ⊢
      cases hresult : (more rest (by simp only [List.length_cons] at shorter; omega)).result with
      | error err =>
        rw [hresult] at hright
        simp only [hresult]
        exact .inRight hlevel h hop hright
      | ok found =>
        rw [hresult] at hright
        simp only [hresult]
        exact .binary hlevel h hop hright

/-- The parser follows the rules. -/
theorem reads_parse (level : Level) (ts : Tokens) :
    level.Reads ts (level.parse ts).taken (level.parse ts).view := by
  fun_induction Level.parse level ts with
  | case1 ts ihOperand ihMore => exact reads_join rfl ihOperand ihMore
  | case2 ts ihOperand ihMore => exact reads_join rfl ihOperand ihMore
  | case3 => exact .missingOperand
  | case4 t ts hkind =>
    unfold Outcome.ofNumber Outcome.view
    cases hx : Decimal.read t.lexeme with
    | some x => exact .number hkind hx
    | none => exact .noNumber hkind hx
  | case5 t ts hkind ih => exact reads_close hkind ih
  | case6 t ts hnum hlparen => exact .noOperand hnum hlparen

theorem reads_iff {level : Level} {ts taken : Tokens}
    {result : Except ParseError (Expr × Tokens)} :
    level.Reads ts taken result ↔ (level.parse ts).taken = taken ∧ (level.parse ts).view = result := by
  constructor
  · intro h
    exact (reads_parse level ts).unique h
  · rintro ⟨rfl, rfl⟩
    exact reads_parse level ts

end Level

/-- What a reading of a sum makes of all the tokens: an expression if no token is left. -/
def Expr.ofReading : Except ParseError (Expr × Tokens) → Except ParseError Expr
  | .error err => .error err
  | .ok (e, []) => .ok e
  | .ok (_, t :: _) => .error (.trailingToken t)

theorem Expr.ofTokens_eq (ts : Tokens) : ofTokens ts = ofReading (Level.sum.parse ts).view := by
  unfold ofTokens Outcome.view
  split
  next err herr => rw [herr]; rfl
  next e shorter hok => rw [hok]; rfl
  next e t rest shorter hok => rw [hok]; rfl

theorem Level.Reads.ofTokens_eq {ts taken : Tokens} {result : Except ParseError (Expr × Tokens)}
    (h : Level.sum.Reads ts taken result) : Expr.ofTokens ts = Expr.ofReading result := by
  rw [Expr.ofTokens_eq, (Level.reads_iff.1 h).2]

/-- The tokens make up an expression if a sum reads all of them. -/
theorem Expr.ofTokens_eq_ok {ts : Tokens} {e : Expr} :
    ofTokens ts = .ok e ↔ ∃ taken, Level.sum.Reads ts taken (.ok (e, [])) := by
  constructor
  · intro h
    have hread := Level.reads_parse .sum ts
    rw [ofTokens_eq] at h
    unfold ofReading at h
    split at h
    next => simp at h
    next e' hview =>
      injection h with h
      subst h
      exact ⟨_, hview ▸ hread⟩
    next => simp at h
  · rintro ⟨taken, h⟩
    exact h.ofTokens_eq

/-- The tokens make up no expression if a sum cannot be read from them, or leaves a token. -/
theorem Expr.ofTokens_eq_error {ts : Tokens} {err : ParseError} (h : ofTokens ts = .error err) :
    (∃ taken, Level.sum.Reads ts taken (.error err)) ∨
      ∃ taken e t rest, Level.sum.Reads ts taken (.ok (e, t :: rest)) ∧ err = .trailingToken t := by
  have hread := Level.reads_parse .sum ts
  rw [ofTokens_eq] at h
  unfold ofReading at h
  split at h
  next err' hview =>
    injection h with h
    subst h
    exact .inl ⟨_, hview ▸ hread⟩
  next => simp at h
  next e t rest hview =>
    injection h with h
    exact .inr ⟨_, e, t, rest, hview ▸ hread, h.symm⟩

end Reckoner
