import Mathlib.Data.List.Forall2
import Reckoner.Proofs.Expr.Reading

/-! Two readings side by side. The parser looks at the kinds of tokens and at the lexemes of numbers, so on
tokens that agree in these it follows the same rules. Related tokens then give the same expression,
with related tokens left, or errors of one variant about related tokens. -/

namespace Reckoner

/-- Tokens that the parser cannot tell apart: they have one kind, and numbers have one lexeme. -/
structure Token.Agrees (t u : Token TokenKind) : Prop where
  kind : t.kind = u.kind
  lexeme : t.kind = .num → t.lexeme = u.lexeme

variable {R : Token TokenKind → Token TokenKind → Prop}

/-- Errors of one variant with one expectation, about related tokens. -/
inductive ParseError.Related (R : Token TokenKind → Token TokenKind → Prop) :
    ParseError → ParseError → Prop
  | unexpectedToken {t u : Token TokenKind} (expected : Expected) :
      R t u → Related R (.unexpectedToken expected t) (.unexpectedToken expected u)
  | unexpectedEnd (expected : Expected) :
      Related R (.unexpectedEnd expected) (.unexpectedEnd expected)
  | trailingToken {t u : Token TokenKind} :
      R t u → Related R (.trailingToken t) (.trailingToken u)
  | invalidNumber {t u : Token TokenKind} :
      R t u → Related R (.invalidNumber t) (.invalidNumber u)

namespace Level

/-- Readings that end alike: with one expression and related tokens left, or with related errors. -/
inductive Related (R : Token TokenKind → Token TokenKind → Prop) :
    Except ParseError (Expr × Tokens) → Except ParseError (Expr × Tokens) → Prop
  | ok {rest rest' : Tokens} (e : Expr) :
      List.Forall₂ R rest rest' → Related R (.ok (e, rest)) (.ok (e, rest'))
  | error {err err' : ParseError} : err.Related R err' → Related R (.error err) (.error err')

variable {level : Level} {ts us taken rest rest' : Tokens} {e : Expr} {err : ParseError}
  {result result' : Except ParseError (Expr × Tokens)}

theorem Related.of_ok (h : Related R (.ok (e, rest)) result') :
    ∃ rest', result' = .ok (e, rest') ∧ List.Forall₂ R rest rest' := by
  cases h with
  | ok _ hrest => exact ⟨_, rfl, hrest⟩

theorem Related.of_error (h : Related R (.error err) result') :
    ∃ err', result' = .error err' ∧ err.Related R err' := by
  cases h with
  | error herr => exact ⟨_, rfl, herr⟩

theorem operator?_of_forall₂ (hR : ∀ t u, R t u → t.Agrees u) (h : List.Forall₂ R rest rest')
    (hstop : ∀ t ∈ rest.head?, level.operator? t.kind = none) :
    ∀ u ∈ rest'.head?, level.operator? u.kind = none := by
  intro u hu
  cases h with
  | nil => cases hu
  | cons ht _ =>
    obtain rfl := Option.some.inj hu
    rw [← (hR _ _ ht).kind]
    exact hstop _ rfl

/-- Related tokens are read by the same rules. -/
theorem Reads.related (hR : ∀ t u, R t u → t.Agrees u) (h : level.Reads ts taken result)
    (hus : List.Forall₂ R ts us) :
    ∃ taken' result', level.Reads us taken' result' ∧ List.Forall₂ R taken taken' ∧
      Related R result result' := by
  -- The rule of the first reading applies to the second, as its conditions are on what agrees.
  induction h generalizing us with
  | number hnum hx =>
    obtain _ | ⟨ht, hus⟩ := hus
    obtain ⟨hkind, hlexeme⟩ := hR _ _ ht
    exact ⟨_, _, .number (hkind ▸ hnum) (hlexeme hnum ▸ hx), .cons ht .nil, .ok _ hus⟩
  | noNumber hnum hx =>
    obtain _ | ⟨ht, hus⟩ := hus
    obtain ⟨hkind, hlexeme⟩ := hR _ _ ht
    exact ⟨_, _, .noNumber (hkind ▸ hnum) (hlexeme hnum ▸ hx), .cons ht .nil,
      .error (.invalidNumber ht)⟩
  | noOperand hnum hlparen =>
    obtain _ | ⟨ht, hus⟩ := hus
    have hkind := (hR _ _ ht).kind
    exact ⟨_, _, .noOperand (hkind ▸ hnum) (hkind ▸ hlparen), .nil, .error (.unexpectedToken _ ht)⟩
  | missingOperand =>
    cases hus
    exact ⟨_, _, .missingOperand, .nil, .error (.unexpectedEnd _)⟩
  | parens hopen _ hclose ih =>
    obtain _ | ⟨ht, hus⟩ := hus
    obtain ⟨taken', _, hread, htaken, hresult⟩ := ih hus
    obtain ⟨_, rfl, _ | ⟨hu, hrest⟩⟩ := hresult.of_ok
    refine ⟨_, _, .parens ((hR _ _ ht).kind ▸ hopen) hread ((hR _ _ hu).kind ▸ hclose), ?_,
      .ok _ hrest⟩
    exact List.rel_append (.cons ht htaken) (.cons hu .nil)
  | noClosing hopen _ hclose ih =>
    obtain _ | ⟨ht, hus⟩ := hus
    obtain ⟨taken', _, hread, htaken, hresult⟩ := ih hus
    obtain ⟨_, rfl, _ | ⟨hu, _⟩⟩ := hresult.of_ok
    exact ⟨_, _, .noClosing ((hR _ _ ht).kind ▸ hopen) hread ((hR _ _ hu).kind ▸ hclose),
      .cons ht htaken, .error (.unexpectedToken _ hu)⟩
  | missingClosing hopen _ ih =>
    obtain _ | ⟨ht, hus⟩ := hus
    obtain ⟨taken', _, hread, htaken, hresult⟩ := ih hus
    obtain ⟨_, rfl, _ | _⟩ := hresult.of_ok
    exact ⟨_, _, .missingClosing ((hR _ _ ht).kind ▸ hopen) hread, .cons ht htaken,
      .error (.unexpectedEnd _)⟩
  | inParens hopen _ ih =>
    obtain _ | ⟨ht, hus⟩ := hus
    obtain ⟨taken', _, hread, htaken, hresult⟩ := ih hus
    obtain ⟨err', rfl, herr⟩ := hresult.of_error
    exact ⟨_, _, .inParens ((hR _ _ ht).kind ▸ hopen) hread, .cons ht htaken, .error herr⟩
  | alone hlevel _ hstop ih =>
    obtain ⟨taken', _, hread, htaken, hresult⟩ := ih hus
    obtain ⟨rest', rfl, hrest⟩ := hresult.of_ok
    exact ⟨_, _, .alone hlevel hread (operator?_of_forall₂ hR hrest hstop), htaken, .ok _ hrest⟩
  | inOperand hlevel _ ih =>
    obtain ⟨taken', _, hread, htaken, hresult⟩ := ih hus
    obtain ⟨err', rfl, herr⟩ := hresult.of_error
    exact ⟨_, _, .inOperand hlevel hread, htaken, .error herr⟩
  | binary hlevel _ hop _ ihl ihr =>
    obtain ⟨taken', _, hread, htaken, hresult⟩ := ihl hus
    obtain ⟨_, rfl, _ | ⟨ht, hus'⟩⟩ := hresult.of_ok
    obtain ⟨more, _, hread', hmore, hresult'⟩ := ihr hus'
    obtain ⟨rest', rfl, hrest⟩ := hresult'.of_ok
    exact ⟨_, _, .binary hlevel hread ((hR _ _ ht).kind ▸ hop) hread',
      List.rel_append htaken (.cons ht hmore), .ok _ hrest⟩
  | inRight hlevel _ hop _ ihl ihr =>
    obtain ⟨taken', _, hread, htaken, hresult⟩ := ihl hus
    obtain ⟨_, rfl, _ | ⟨ht, hus'⟩⟩ := hresult.of_ok
    obtain ⟨more, _, hread', hmore, hresult'⟩ := ihr hus'
    obtain ⟨err', rfl, herr⟩ := hresult'.of_error
    exact ⟨_, _, .inRight hlevel hread ((hR _ _ ht).kind ▸ hop) hread',
      List.rel_append htaken (.cons ht hmore), .error herr⟩

end Level

/-- Related tokens make up one expression, or give related errors after as many tokens taken. -/
theorem Expr.ofTokens_related (hR : ∀ t u, R t u → t.Agrees u) {ts us : Tokens}
    (h : List.Forall₂ R ts us) :
    (Level.sum.parse ts).taken.length = (Level.sum.parse us).taken.length ∧
    ((∃ e, ofTokens ts = .ok e ∧ ofTokens us = .ok e) ∨
      ∃ err err', ofTokens ts = .error err ∧ ofTokens us = .error err' ∧ err.Related R err') := by
  have hread := Level.reads_parse .sum ts
  obtain ⟨taken', result', hread', htaken, hresult⟩ := hread.related hR h
  rw [hread.ofTokens_eq, hread'.ofTokens_eq, (Level.reads_iff.1 hread').1]
  refine ⟨htaken.length_eq, ?_⟩
  cases hview : (Level.sum.parse ts).view with
  | error err =>
    obtain ⟨err', rfl, herr⟩ := (hview ▸ hresult).of_error
    exact .inr ⟨err, err', rfl, rfl, herr⟩
  | ok found =>
    obtain ⟨e, rest⟩ := found
    obtain ⟨rest', rfl, hrest⟩ := (hview ▸ hresult).of_ok
    cases hrest with
    | nil => exact .inl ⟨e, rfl, rfl⟩
    | cons ht _ => exact .inr ⟨_, _, rfl, rfl, .trailingToken ht⟩

end Reckoner
