import Reckoner.Proofs.Expr.ErrorPlace

/-! Which errors a text can have after its tokens are found. A level gives control back only at a token
that does not go on with it, so a token that a parenthesis or the end does not fit begins an operand
or closes a parenthesis. The lexer leaves out blanks and takes only numbers that can be read. -/

namespace Reckoner

/-- The error is one that the tokens of a text can have: what was expected, and the kind of the token
in its place. -/
def ParseError.Arises : ParseError → Prop
  | unexpectedToken .operand t => t.kind ∈ [.plus, .minus, .times, .div, .rparen]
  | unexpectedToken (.token .rparen) t => t.kind ∈ [.num, .lparen]
  | unexpectedToken (.token _) _ => False
  | unexpectedEnd expected => expected = .operand ∨ expected = .token .rparen
  | trailingToken t => t.kind ∈ [.num, .lparen, .rparen]
  | invalidNumber _ => False

namespace Level

variable {level : Level} {ts taken rest : Tokens} {t : Token TokenKind} {e : Expr} {err : ParseError}

/-- Why a level fails at the token of an error, or at the end. -/
def Refuses : ParseError → Prop
  | .unexpectedToken .operand t => t.kind ≠ .num ∧ t.kind ≠ .lparen
  | .unexpectedToken (.token expected) t =>
    expected = .rparen ∧ t.kind ≠ .rparen ∧ sum.continues t.kind = false
  | .unexpectedEnd expected => expected = .operand ∨ expected = .token .rparen
  | .trailingToken _ => False
  | .invalidNumber t => t.kind = .num ∧ Decimal.read t.lexeme = none

theorem Reads.continues_rest (h : level.Reads ts taken (.ok (e, t :: rest))) :
    level.continues t.kind = false :=
  stops_cons.1 h.sound.2.2

theorem Reads.refuses (h : level.Reads ts taken (.error err)) : Refuses err := by
  generalize hresult : Except.error err = result at h
  induction h with
  | noNumber hkind hread =>
    cases hresult
    exact ⟨hkind, hread⟩
  | noOperand hnum hlparen =>
    cases hresult
    exact ⟨hnum, hlparen⟩
  | missingOperand =>
    cases hresult
    exact .inl rfl
  | noClosing _ hsum hclose =>
    cases hresult
    exact ⟨rfl, hclose, hsum.continues_rest⟩
  | missingClosing =>
    cases hresult
    exact .inr rfl
  | inParens _ _ ih | inOperand _ _ ih | inRight _ _ _ _ _ ih => exact ih hresult
  | _ => cases hresult

end Level

namespace Expr

variable {ts : Tokens} {err : ParseError} {text : String}

/-- Without blanks among the tokens and numbers that cannot be read, the error is one of these. -/
theorem arises_of_ofTokens_eq_error (h : ofTokens ts = .error err)
    (hblank : ∀ t ∈ ts, t.kind ≠ .whitespace) (hnumber : ∀ t, err ≠ .invalidNumber t) :
    err.Arises := by
  have hkind : ∀ t, err.token? = some t → t.kind ≠ .whitespace := fun t ht =>
    hblank t (mem_of_ofTokens_eq_error h ht)
  rcases ofTokens_eq_error h with ⟨taken, hread⟩ | ⟨taken, e, t, rest, hread, rfl⟩
  · have hrefuses := hread.refuses
    cases err with
    | unexpectedToken expected t =>
      have hblank := hkind t rfl
      cases expected with
      | operand =>
        obtain ⟨hnum, hlparen⟩ := hrefuses
        show t.kind ∈ _
        cases hk : t.kind <;> simp_all
      | token kind =>
        obtain ⟨rfl, hrparen, hcontinues⟩ := hrefuses
        show t.kind ∈ _
        cases hk : t.kind <;>
          simp_all [Level.continues, TokenKind.isAdditive, TokenKind.isMultiplicative]
    | unexpectedEnd expected => exact hrefuses
    | trailingToken t => exact hrefuses.elim
    | invalidNumber t => exact absurd rfl (hnumber t)
  · have hblank := hkind t rfl
    have hcontinues := hread.continues_rest
    show t.kind ∈ _
    cases hk : t.kind <;>
      simp_all [Level.continues, TokenKind.isAdditive, TokenKind.isMultiplicative]

/-- The tokens of a text that make up no expression have an error of these: an operator or a closing
parenthesis where an operand is expected, a number or an opening parenthesis where one is to be closed,
the end in either place, or a token too many that is no operator. Every number can be read, because
the automaton for numbers accepts nothing else, and no blank is left for an error to be about. -/
theorem ofText_error_arises (text : String) (err : ParseError)
    (h : ofText text = .error (.grammatical err)) :
    err.Arises ∧ (∀ t, err ≠ .invalidNumber t) ∧ (∀ t ∈ err.token?, t.kind ≠ .whitespace) ∧
      ∀ word : String, Automaton.number.Accepts word.toList → ∃ x, Decimal.read word = some x := by
  have hnumber : ∀ t, err ≠ .invalidNumber t := by
    rintro t rfl
    exact ofText_ne_invalidNumber text t h
  rcases ofText_eq_error h with ⟨_, _, hlexical⟩ | ⟨ts, err', hlex, htokens, herr⟩
  · cases hlexical
  · cases herr
    have hblank : ∀ t ∈ ts, t.kind ≠ .whitespace := fun t ht => Lexer.ne_whitespace_of_mem hlex ht
    refine ⟨arises_of_ofTokens_eq_error htokens hblank hnumber, hnumber, fun t ht => ?_, ?_⟩
    · exact hblank t (mem_of_ofTokens_eq_error htokens ht)
    · exact fun word hword => Decimal.read_number (Automaton.accepts_number.1 hword)

/-- An error of each variant: no operand before a parenthesis, no parenthesis before a number, the end
inside parentheses, and a parenthesis that closes nothing. -/
theorem ofText_error_arises_each :
    let operand := ParseError.unexpectedToken .operand ⟨.rparen, ")", ⟨7, 8⟩, ⟨1, 1⟩⟩
    let closing := ParseError.unexpectedToken (.token .rparen) ⟨.num, ".5", ⟨5, 7⟩, ⟨0, 5⟩⟩
    let ending := ParseError.unexpectedEnd (.token .rparen)
    let trailing := ParseError.trailingToken ⟨.rparen, ")", ⟨4, 5⟩, ⟨0, 4⟩⟩
    (ofText "(1.5*\n ) 2.5" = .error (.grammatical operand) ∧ operand.Arises) ∧
    (ofText "( 1.5.5)" = .error (.grammatical closing) ∧ closing.Arises) ∧
    (ofText "(1.5 + (2.5)" = .error (.grammatical ending) ∧ ending.Arises) ∧
    (ofText "1.5 )\t(" = .error (.grammatical trailing) ∧ trailing.Arises) := by
  intro operand closing ending trailing
  have hoperand : ofText "(1.5*\n ) 2.5" = .error (.grammatical operand) :=
    eq_error_of_map (by decide +kernel)
  have hclosing : ofText "( 1.5.5)" = .error (.grammatical closing) :=
    eq_error_of_map (by decide +kernel)
  have hending : ofText "(1.5 + (2.5)" = .error (.grammatical ending) :=
    eq_error_of_map (by decide +kernel)
  have htrailing : ofText "1.5 )\t(" = .error (.grammatical trailing) :=
    eq_error_of_map (by decide +kernel)
  exact ⟨⟨hoperand, (ofText_error_arises _ _ hoperand).1⟩,
    ⟨hclosing, (ofText_error_arises _ _ hclosing).1⟩,
    ⟨hending, (ofText_error_arises _ _ hending).1⟩,
    ⟨htrailing, (ofText_error_arises _ _ htrailing).1⟩⟩

end Expr

end Reckoner
