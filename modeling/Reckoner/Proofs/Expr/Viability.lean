import Reckoner.Proofs.Expr.Grammar

/-! Errors are reported at the first token that rules out every expression. Tokens are viable if
some tokens after them complete an expression. Before the token of an error the tokens are viable,
and with it they are not, because the parser looks at no token after it. At the end of the tokens
they are viable, and stay so with a token that is expected. -/

namespace Reckoner

/-- Some tokens after these complete an expression. -/
def Tokens.Viable (ts : Tokens) : Prop := ∃ more e, Expr.ofTokens (ts ++ more) = .ok e

/-- The token with the number `i` is the first that no expression goes on with. -/
def Tokens.RuledOutAt (ts : Tokens) (i : Nat) (t : Token TokenKind) : Prop :=
  ts[i]? = some t ∧ Viable (ts.take i) ∧ ¬ Viable (ts.take (i + 1))

/-- The token is one that is expected; as an operand, a number that can be read. -/
def Expected.Admits : Expected → Token TokenKind → Prop
  | operand, t => t.kind = .num ∧ (Decimal.read t.lexeme).isSome
  | token kind, t => t.kind = kind

/-- The error is reported at the first token that could show it, or at the end. -/
def ParseError.Earliest (ts : Tokens) : ParseError → Prop
  | unexpectedToken _ t | trailingToken t => ∃ i, ts.RuledOutAt i t
  | unexpectedEnd expected =>
    Tokens.Viable ts ∧ (∀ e, Expr.ofTokens ts ≠ .ok e) ∧
      (expected = .operand ∨ expected = .token .rparen) ∧
      ∀ t, expected.Admits t → Tokens.Viable (ts ++ [t])
  | invalidNumber t =>
    ∃ i, ts[i]? = some t ∧ t.kind = .num ∧ Decimal.read t.lexeme = none ∧
      Tokens.Viable (ts.take i)

namespace Level

/-- Some tokens after these complete an expression of the level. -/
def Completable (level : Level) (ts : Tokens) : Prop := ∃ more e, level.Derives (ts ++ more) e

variable {level tighter : Level} {ts us taken rest : Tokens} {t : Token TokenKind} {e l : Expr}

theorem Derives.completable (h : level.Derives ts e) : level.Completable ts :=
  ⟨[], e, by rwa [List.append_nil]⟩

theorem derives_number {t : Token TokenKind} (h : Expected.operand.Admits t) :
    ∃ e, literal.Derives [t] e := by
  obtain ⟨x, hx⟩ := Option.isSome_iff_exists.1 h.2
  exact ⟨.literal x, .number h.1 hx⟩

theorem completable_nil : literal.Completable [] := by
  obtain ⟨e, he⟩ := derives_number (t := ⟨.num, "0", ⟨0, 1⟩, .start⟩) ⟨rfl, by decide⟩
  exact ⟨_, e, he⟩

theorem Completable.ofOperand (hlevel : level.operand? = some tighter)
    (h : tighter.Completable ts) : level.Completable ts := by
  obtain ⟨more, e, he⟩ := h
  exact ⟨more, e, he.ofOperand hlevel⟩

theorem Completable.right {op : BinaryOp} (hlevel : level.operand? = some tighter)
    (hl : tighter.Derives ts l) (hop : level.operator? t.kind = some op)
    (h : level.Completable us) : level.Completable (ts ++ [t] ++ us) := by
  obtain ⟨more, r, hr⟩ := h
  have htokens : ts ++ [t] ++ us ++ more = ts ++ t :: (us ++ more) := by simp
  exact ⟨more, .binary op l r, htokens ▸ .binary hlevel hl hop hr⟩

theorem Completable.inParens (ht : t.kind = .lparen) (h : sum.Completable ts) :
    literal.Completable ([t] ++ ts) := by
  obtain ⟨more, e, he⟩ := h
  let u : Token TokenKind := ⟨.rparen, ")", ⟨0, 1⟩, .start⟩
  have htokens : [t] ++ ts ++ (more ++ [u]) = t :: (ts ++ more) ++ [u] := by simp
  exact ⟨more ++ [u], e, htokens ▸ Derives.parens ht he rfl⟩

/-- An error of a level and the tokens that it took before: these are completable, and for a token
that is not expected, the error is the same whatever follows the token. -/
def Blames (level : Level) (ts taken : Tokens) : ParseError → Prop
  | .unexpectedToken expected t =>
    (∃ rest, ts = taken ++ t :: rest) ∧ level.Completable taken ∧
      ∀ rest, level.Reads (taken ++ t :: rest) taken (.error (.unexpectedToken expected t))
  | .trailingToken _ => False
  | .unexpectedEnd expected =>
    ts = taken ∧ level.Completable ts ∧ (expected = .operand ∨ expected = .token .rparen) ∧
      ∀ t, expected.Admits t → level.Completable (ts ++ [t])
  | .invalidNumber t =>
    ∃ used rest, ts = used ++ t :: rest ∧ t.kind = .num ∧ Decimal.read t.lexeme = none ∧
      level.Completable used

/-- An error of an inner level is one of the outer level, after the tokens that the outer level took
before it. -/
theorem Blames.lift {inner outer : Level} {err : ParseError} (before : Tokens)
    (hreads : ∀ us taken, inner.Reads us taken (.error err) →
      outer.Reads (before ++ us) (before ++ taken) (.error err))
    (hcompletable : ∀ us, inner.Completable us → outer.Completable (before ++ us))
    (h : inner.Blames ts taken err) : outer.Blames (before ++ ts) (before ++ taken) err := by
  cases err with
  | unexpectedToken expected t =>
    obtain ⟨⟨rest, hts⟩, hc, hr⟩ := h
    refine ⟨⟨rest, by rw [hts, List.append_assoc]⟩, hcompletable _ hc, fun rest' => ?_⟩
    rw [List.append_assoc]
    exact hreads _ _ (hr rest')
  | trailingToken t => exact h
  | unexpectedEnd expected =>
    obtain ⟨hts, hc, hexpected, hadmits⟩ := h
    refine ⟨by rw [hts], hcompletable _ hc, hexpected, fun t ht => ?_⟩
    rw [List.append_assoc]
    exact hcompletable _ (hadmits t ht)
  | invalidNumber t =>
    obtain ⟨used, rest, hts, hkind, hread, hc⟩ := h
    exact ⟨before ++ used, rest, by rw [hts, List.append_assoc], hkind, hread, hcompletable _ hc⟩

/-- What a level takes does not depend on the tokens after the one at which it stops. -/
theorem Reads.local (h : level.Reads ts taken (.ok (e, t :: rest))) (rest' : Tokens) :
    level.Reads (taken ++ t :: rest') taken (.ok (e, t :: rest')) := by
  obtain ⟨hd, _, hstops⟩ := h.sound
  exact hd.reads (stops_cons.2 (stops_cons.1 hstops))

theorem Reads.blames {err : ParseError} (h : level.Reads ts taken (.error err)) :
    level.Blames ts taken err := by
  generalize hresult : Except.error err = result at h
  induction h generalizing err with
  | noNumber hkind hread =>
    cases hresult
    exact ⟨[], _, rfl, hkind, hread, completable_nil⟩
  | noOperand hnum hlparen =>
    cases hresult
    exact ⟨⟨_, rfl⟩, completable_nil, fun _ => .noOperand hnum hlparen⟩
  | missingOperand =>
    cases hresult
    refine ⟨rfl, completable_nil, .inl rfl, fun t ht => ?_⟩
    obtain ⟨e, he⟩ := derives_number ht
    exact he.completable
  | noClosing hkind hsum hclose =>
    cases hresult
    -- The sum in the parentheses has seen the token, but it reads the same with others after it.
    obtain ⟨hd, rfl, _⟩ := hsum.sound
    refine ⟨⟨_, rfl⟩, hd.completable.inParens hkind, fun rest' => ?_⟩
    exact .noClosing hkind (hsum.local rest') hclose
  | missingClosing hkind hsum =>
    cases hresult
    obtain ⟨hd, rfl, _⟩ := hsum.sound
    rw [List.append_nil]
    refine ⟨rfl, hd.completable.inParens hkind, .inr rfl, fun u hu => ?_⟩
    exact (Derives.parens hkind hd hu).completable
  | inParens hkind _ ih =>
    cases hresult
    exact (ih rfl).lift [_] (fun _ _ => .inParens hkind) fun _ => .inParens hkind
  | inOperand hlevel _ ih =>
    cases hresult
    exact (ih rfl).lift [] (fun _ _ => .inOperand hlevel) fun _ => .ofOperand hlevel
  | @inRight level tighter ts taken us taken' t op l err hlevel hl hop _ _ ih =>
    cases hresult
    obtain ⟨hd, rfl, _⟩ := hl.sound
    have h := (ih rfl).lift (taken ++ [t])
      (fun us taken' hus => by simpa using .inRight hlevel (hl.local us) hop hus)
      fun us => .right hlevel hd hop
    simpa using h
  | _ => cases hresult

end Level

theorem Tokens.viable_iff {ts : Tokens} : ts.Viable ↔ Level.sum.Completable ts := by
  simp only [Viable, Level.Completable, Expr.ofTokens_iff]

/-- The tokens before one that rules out every expression are viable, and with it they are not. -/
theorem Tokens.ruledOutAt_length {used : Tokens} {t : Token TokenKind} (rest : Tokens)
    (hused : used.Viable) (hnone : ∀ more e, Expr.ofTokens (used ++ t :: more) ≠ .ok e) :
    RuledOutAt (used ++ t :: rest) used.length t := by
  refine ⟨by simp, by rwa [List.take_left], ?_⟩
  rw [List.take_length_add_append]
  rintro ⟨more, e, he⟩
  rw [List.append_assoc] at he
  exact hnone more e he

/-- Every error of the parser is reported at the first token that rules out every expression, or
the first number that cannot be read, or at the end of tokens that some expression begins with. -/
theorem Expr.ofTokens_error_earliest (ts : Tokens) (err : ParseError)
    (h : ofTokens ts = .error err) : err.Earliest ts := by
  rcases ofTokens_eq_error h with ⟨taken, hread⟩ | ⟨taken, e, t, rest, hread, rfl⟩
  · have hblames := hread.blames
    cases err with
    | unexpectedToken expected t =>
      obtain ⟨⟨rest, rfl⟩, hc, hsame⟩ := hblames
      refine ⟨_, Tokens.ruledOutAt_length rest (Tokens.viable_iff.2 hc) fun more e he => ?_⟩
      rw [(hsame more).ofTokens_eq] at he
      cases he
    | trailingToken t => exact hblames.elim
    | unexpectedEnd expected =>
      obtain ⟨_, hc, hexpected, hadmits⟩ := hblames
      refine ⟨Tokens.viable_iff.2 hc, fun e he => ?_, hexpected, fun t ht => ?_⟩
      · rw [h] at he
        cases he
      · exact Tokens.viable_iff.2 (hadmits t ht)
    | invalidNumber t =>
      obtain ⟨used, rest, rfl, hkind, hread, hc⟩ := hblames
      refine ⟨used.length, by simp, hkind, hread, ?_⟩
      rw [List.take_left]
      exact Tokens.viable_iff.2 hc
  · obtain ⟨hd, rfl, _⟩ := hread.sound
    refine ⟨_, Tokens.ruledOutAt_length rest (Tokens.viable_iff.2 hd.completable)
      fun more e' he => ?_⟩
    rw [(hread.local more).ofTokens_eq] at he
    cases he

/-- An error of each kind: a wrong operand, a missing parenthesis, a token too many, and a number that
cannot be read. -/
theorem Expr.ofTokens_error_earliest_each :
    let opening : Token TokenKind := ⟨.lparen, "(", ⟨0, 1⟩, ⟨0, 0⟩⟩
    let number : Token TokenKind := ⟨.num, "1.0", ⟨2, 5⟩, ⟨0, 2⟩⟩
    let sign : Token TokenKind := ⟨.plus, "+", ⟨6, 7⟩, ⟨0, 6⟩⟩
    let closing : Token TokenKind := ⟨.rparen, ")", ⟨8, 9⟩, ⟨0, 8⟩⟩
    let noNumber : Token TokenKind := ⟨.num, "1.0.0", ⟨8, 13⟩, ⟨0, 8⟩⟩
    (ofTokens [opening, number, sign, closing] = .error (.unexpectedToken .operand closing) ∧
      ParseError.Earliest [opening, number, sign, closing] (.unexpectedToken .operand closing)) ∧
    (ofTokens [opening, number] = .error (.unexpectedEnd (.token .rparen)) ∧
      ParseError.Earliest [opening, number] (.unexpectedEnd (.token .rparen))) ∧
    (ofTokens [number, closing] = .error (.trailingToken closing) ∧
      ParseError.Earliest [number, closing] (.trailingToken closing)) ∧
    (ofTokens [number, sign, noNumber] = .error (.invalidNumber noNumber) ∧
      ParseError.Earliest [number, sign, noNumber] (.invalidNumber noNumber)) := by
  intro opening number sign closing noNumber
  obtain ⟨x, hx⟩ := Option.isSome_iff_exists.1 (by decide : (Decimal.read "1.0").isSome)
  have hnumber : ∀ ts, Level.literal.Reads (number :: ts) [number] (.ok (.literal x, ts)) :=
    fun ts => .number rfl hx
  have hproduct : ∀ t ts, Level.product.operator? t.kind = none →
      Level.product.Reads (number :: t :: ts) [number] (.ok (.literal x, t :: ts)) :=
    fun t ts ht => .alone rfl (hnumber _) fun u hu => by cases hu; exact ht
  have hwrong : ofTokens [opening, number, sign, closing] =
      .error (.unexpectedToken .operand closing) :=
    (Level.Reads.inOperand rfl (.inOperand rfl (.inParens rfl (.inRight rfl
      (hproduct sign [closing] rfl) rfl
      (.inOperand rfl (.inOperand rfl (.noOperand (by decide) (by decide)))))))).ofTokens_eq
  have hmissing : ofTokens [opening, number] = .error (.unexpectedEnd (.token .rparen)) :=
    (Level.Reads.inOperand rfl (.inOperand rfl (.missingClosing rfl
      (.alone rfl (.alone rfl (hnumber []) (by simp)) (by simp))))).ofTokens_eq
  have htrailing : ofTokens [number, closing] = .error (.trailingToken closing) :=
    (Level.Reads.alone rfl (hproduct closing [] rfl) (by simp [closing, Level.operator?])).ofTokens_eq
  have hinvalid : ofTokens [number, sign, noNumber] = .error (.invalidNumber noNumber) :=
    (Level.Reads.inRight rfl (hproduct sign [noNumber] rfl) rfl
      (.inOperand rfl (.inOperand rfl (.noNumber rfl (by decide))))).ofTokens_eq
  exact ⟨⟨hwrong, ofTokens_error_earliest _ _ hwrong⟩,
    ⟨hmissing, ofTokens_error_earliest _ _ hmissing⟩,
    ⟨htrailing, ofTokens_error_earliest _ _ htrailing⟩,
    ⟨hinvalid, ofTokens_error_earliest _ _ hinvalid⟩⟩

end Reckoner
