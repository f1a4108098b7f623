import Reckoner.Expr.Calls
import Reckoner.Proofs.Expr.Grammar

/-! What a level takes is a prefix of its tokens that does not depend on what follows, as long as that does
not go on with the level. A level makes no calls but smaller ones, so calls nest no deeper than the tokens
allow. -/

namespace Reckoner.Level

/-- The level takes `used` and leaves `rest`, and `used` alone decides on the expression: the level makes the
same of `used` with nothing behind it, or with anything that does not go on with the level. -/
structure Takes (level : Level) (ts used rest : Tokens) (e : Expr) : Prop where
  append : ts = used ++ rest
  ne_nil : used ≠ []
  alone : (level.parse used).view = .ok (e, [])
  stops : level.Stops rest
  before : ∀ tail, level.Stops tail → (level.parse (used ++ tail)).view = .ok (e, tail)

variable {level : Level} {ts used rest : Tokens} {e : Expr}
  {call : Level → Tokens → Option Reading}

theorem view_shorter (h : (level.parse ts).view = .ok (e, rest)) : rest.length < ts.length := by
  unfold Outcome.view at h
  cases hresult : (level.parse ts).result with
  | error err =>
    rw [hresult] at h
    cases h
  | ok found =>
    rw [hresult] at h
    cases h
    exact found.2.property

theorem Derives.view_parse (h : level.Derives used e) (hstops : level.Stops rest) :
    (level.parse (used ++ rest)).view = .ok (e, rest) :=
  (reads_iff.1 (h.reads hstops)).2

theorem exists_takes (h : (level.parse ts).view = .ok (e, rest)) :
    ∃ used, level.Takes ts used rest e := by
  have hread : level.Reads ts (level.parse ts).taken (.ok (e, rest)) := reads_iff.2 ⟨rfl, h⟩
  obtain ⟨hd, hts, hstops⟩ := hread.sound
  have halone : (level.parse ((level.parse ts).taken ++ [])).view = .ok (e, []) :=
    hd.view_parse stops_nil
  rw [List.append_nil] at halone
  refine ⟨_, hts, fun hnil => ?_, halone, hstops, fun tail htail => hd.view_parse htail⟩
  -- With nothing taken, what is left would be as long as the tokens.
  have hshorter := view_shorter h
  rw [hnil] at hts
  rw [hts] at hshorter
  exact Nat.lt_irrefl _ hshorter

theorem view_close (t : Token TokenKind) (inner : Outcome ts) :
    (inner.close t).view = afterOpening inner.view := by
  unfold Outcome.close Outcome.view
  split
  next err herr =>
    rw [herr]
    rfl
  next e rest shorter hok =>
    rw [hok]
    simp only [Except.map, afterOpening]
    cases rest.consume .rparen <;> rfl

theorem afterOperand_view {operand : Outcome ts}
    {more : (rest : Tokens) → rest.length < ts.length → Outcome rest}
    (hmore : ∀ rest shorter, call level rest = some (more rest shorter).view) :
    afterOperand call level operand.view = some (operand.join level more).view := by
  unfold Outcome.join
  split
  next err herr =>
    simp only [Outcome.view, herr]
    rfl
  next e shorter hok =>
    simp only [Outcome.view, hok]
    rfl
  next l t rest shorter hok =>
    have hrest : rest.length < ts.length := by
      simp only [List.length_cons] at shorter
      omega
    have hview : operand.view = .ok (l, t :: rest) := by
      rw [Outcome.view, hok]
      rfl
    rw [hview, afterOperand]
    cases level.operator? t.kind with
    | none => exact congrArg some hview.symm
    | some op =>
      simp only [hmore rest hrest, Outcome.view]
      cases (more rest hrest).result <;> rfl

theorem body_literal (t : Token TokenKind) (h : call .sum ts = some (sum.parse ts).view) :
    body call .literal (t :: ts) = some (literal.parse (t :: ts)).view := by
  rw [body, Level.parse]
  cases hkind : t.kind with
  | num =>
    simp only [Outcome.ofNumber, Outcome.view]
    cases Decimal.read t.lexeme <;> rfl
  | lparen =>
    simp only [h, view_close]
    rfl
  | _ => rfl

/-- What a level does needs no calls but smaller ones. -/
theorem body_of_smaller
    (h : ∀ level' ts', Smaller level' ts' level ts → call level' ts' = some (level'.parse ts').view) :
    body call level ts = some (level.parse ts).view := by
  -- A tighter level is called with the same tokens, and any level after a token was taken.
  cases level with
  | sum =>
    rw [body, h .product ts (.inr ⟨rfl, by decide⟩), Level.parse]
    exact afterOperand_view fun rest shorter => h .sum rest (.inl shorter)
  | product =>
    rw [body, h .literal ts (.inr ⟨rfl, by decide⟩), Level.parse]
    exact afterOperand_view fun rest shorter => h .product rest (.inl shorter)
  | literal =>
    cases ts with
    | nil =>
      rw [body, Level.parse]
      rfl
    | cons t ts => exact body_literal t (h .sum ts (.inl (Nat.lt_succ_self _)))

theorem nested_eq {depth : Nat} (h : 3 * ts.length + level.rank < depth) :
    nested depth level ts = some (level.parse ts).view := by
  induction depth generalizing level ts with
  | zero => omega
  | succ depth ih =>
    refine body_of_smaller fun level' ts' hsmaller => ih ?_
    have hrank : level'.rank ≤ 2 := by cases level' <;> decide
    rcases hsmaller with hlength | ⟨hlength, hlevel⟩ <;> omega

/-- What a level takes is a prefix that is not empty, does not depend on what follows, and ends where the
level cannot go on. On any tokens the level needs smaller calls only, so calls that nest to a bounded depth
give the result. -/
theorem parse_takes_prefix (level : Level) (ts : Tokens) :
    (∀ e rest, (level.parse ts).view = .ok (e, rest) → ∃ used, level.Takes ts used rest e) ∧
    (∀ call, (∀ level' ts', Smaller level' ts' level ts →
        call level' ts' = some (level'.parse ts').view) →
      body call level ts = some (level.parse ts).view) ∧
    ∀ depth, 3 * ts.length + level.rank < depth →
      nested depth level ts = some (level.parse ts).view :=
  ⟨fun _ _ => exists_takes, fun _ => body_of_smaller, fun _ => nested_eq⟩

/-- A product in front of an addition. -/
theorem parse_takes_prefix_of_product :
    let a : Token TokenKind := ⟨.num, "1.5", ⟨0, 3⟩, ⟨0, 0⟩⟩
    let times : Token TokenKind := ⟨.times, "*", ⟨3, 4⟩, ⟨0, 3⟩⟩
    let b : Token TokenKind := ⟨.num, "2.5", ⟨4, 7⟩, ⟨0, 4⟩⟩
    let plus : Token TokenKind := ⟨.plus, "+", ⟨7, 8⟩, ⟨0, 7⟩⟩
    let e : Expr := .binary .mul (.literal 1.5) (.literal 2.5)
    (product.parse [a, times, b, plus, a]).view = .ok (e, [plus, a]) ∧
      product.Takes [a, times, b, plus, a] [a, times, b] [plus, a] e ∧
      nested 17 product [a, times, b, plus, a] = some (.ok (e, [plus, a])) := by
  intro a times b plus e
  have ha : literal.Derives [a] (.literal 1.5) := .number rfl (by decide +kernel)
  have hb : literal.Derives [b] (.literal 2.5) := .number rfl (by decide +kernel)
  have hproduct : product.Derives [a, times, b] e := .mul ha rfl (.ofLiteral hb)
  have hview : (product.parse [a, times, b, plus, a]).view = .ok (e, [plus, a]) :=
    hproduct.view_parse (stops_cons.2 rfl)
  obtain ⟨htakes, -, hnested⟩ := parse_takes_prefix product [a, times, b, plus, a]
  obtain ⟨used, hused⟩ := htakes e [plus, a] hview
  obtain rfl : [a, times, b] = used := List.append_cancel_right hused.append
  exact ⟨hview, hused, hview ▸ hnested 17 (by decide)⟩

end Reckoner.Level
