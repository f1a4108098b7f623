import Reckoner.Proofs.Expr.ErrorPlace

/-! At which token an error is raised. The parser takes tokens one after the other, so the number of those
that it took is the index of the token that it stopped at; only a number is taken before it is found
to be none. What the parser does not look at changes neither the error nor this index,
`ofTokens_agree`. -/

namespace Reckoner

/-- The number of tokens before the one that the error is about, or before the end, if the parser took
`taken`. -/
def ParseError.index (taken : Tokens) : ParseError → Nat
  | unexpectedToken _ _ | unexpectedEnd _ | trailingToken _ => taken.length
  | invalidNumber _ => taken.length - 1

/-- The parser raises the error at the token with the number `i`, or at the end behind `i` tokens, and
the error carries this token. -/
structure ParseError.RaisedAt (err : ParseError) (ts : Tokens) (i : Nat) : Prop where
  index : err.index (Level.sum.parse ts).taken = i
  token : ts[i]? = err.token?

namespace Level

variable {level : Level} {ts taken : Tokens} {t : Token TokenKind} {err : ParseError}

/-- A number that cannot be read is the last token taken, after some that can be completed. -/
theorem Reads.taken_of_invalidNumber (h : level.Reads ts taken (.error (.invalidNumber t))) :
    ∃ used rest, taken = used ++ [t] ∧ ts = taken ++ rest ∧ level.Completable used := by
  generalize hresult : Except.error (ParseError.invalidNumber t) = result at h
  induction h with
  | noNumber =>
    cases hresult
    exact ⟨[], _, rfl, rfl, completable_nil⟩
  | inParens hkind _ ih =>
    obtain ⟨used, rest, rfl, rfl, hc⟩ := ih hresult
    exact ⟨_ :: used, rest, rfl, rfl, hc.inParens hkind⟩
  | inOperand hlevel _ ih =>
    obtain ⟨used, rest, htaken, hts, hc⟩ := ih hresult
    exact ⟨used, rest, htaken, hts, hc.ofOperand hlevel⟩
  | @inRight _ _ _ taken _ _ u _ _ _ hlevel hl hop _ _ ih =>
    obtain ⟨hd, rfl, _⟩ := hl.sound
    obtain ⟨used, rest, rfl, rfl, hc⟩ := ih hresult
    exact ⟨taken ++ [u] ++ used, rest, by simp, by simp, hc.right hlevel hd hop⟩
  | _ => cases hresult

/-- The error is about the token that the parser stopped at. -/
theorem Reads.getElem?_index (h : level.Reads ts taken (.error err)) :
    ts[err.index taken]? = err.token? := by
  cases err with
  | unexpectedToken expected t =>
    obtain ⟨⟨rest, rfl⟩, _⟩ := h.blames
    simp [ParseError.index, ParseError.token?]
  | unexpectedEnd expected =>
    obtain ⟨rfl, _⟩ := h.blames
    simp [ParseError.index, ParseError.token?]
  | trailingToken t => exact h.blames.elim
  | invalidNumber t =>
    obtain ⟨used, rest, rfl, rfl, -⟩ := h.taken_of_invalidNumber
    simp [ParseError.index, ParseError.token?]

end Level

namespace Expr

variable {ts us : Tokens} {err : ParseError}

theorem raisedAt_of_ofTokens_eq_error (h : ofTokens ts = .error err) :
    err.RaisedAt ts (err.index (Level.sum.parse ts).taken) := by
  refine ⟨rfl, ?_⟩
  rcases ofTokens_eq_error h with ⟨taken, hread⟩ | ⟨taken, e, t, rest, hread, rfl⟩
  · rw [(Level.reads_iff.1 hread).1]
    exact hread.getElem?_index
  · obtain ⟨_, rfl, _⟩ := hread.sound
    rw [(Level.reads_iff.1 hread).1]
    simp [ParseError.index, ParseError.token?]

/-- The parser looks at nothing but the kinds of tokens and the lexemes of numbers. Tokens that agree in
these make up the same expression, or give errors of one variant, with one expectation, about tokens
that agree; both are raised at the same index, and each carries the token with this index in its own
list. -/
theorem ofTokens_agree (ts us : Tokens) (h : List.Forall₂ Token.Agrees ts us) :
    (∃ e, ofTokens ts = .ok e ∧ ofTokens us = .ok e) ∨
    ∃ err err' i, ofTokens ts = .error err ∧ ofTokens us = .error err' ∧
      err.Related Token.Agrees err' ∧ err.RaisedAt ts i ∧ err'.RaisedAt us i := by
  obtain ⟨hlength, hok | ⟨err, err', hts, hus, herr⟩⟩ := ofTokens_related (fun _ _ => id) h
  · exact .inl hok
  · have hindex : err'.index (Level.sum.parse us).taken = err.index (Level.sum.parse ts).taken := by
      cases herr <;> simp only [ParseError.index, hlength]
    refine .inr ⟨err, err', _, hts, hus, herr, raisedAt_of_ofTokens_eq_error hts, ?_⟩
    exact hindex ▸ raisedAt_of_ofTokens_eq_error hus

/-- Two lists in which only the kinds and the number agree, and an operand is missing at index 3. -/
theorem ofTokens_agree_at_missing_operand :
    let t : Token TokenKind := ⟨.rparen, ")", ⟨7, 8⟩, ⟨1, 2⟩⟩
    let u : Token TokenKind := ⟨.rparen, "end", ⟨40, 43⟩, ⟨0, 40⟩⟩
    let ts : Tokens := [⟨.lparen, "(", ⟨0, 1⟩, ⟨0, 0⟩⟩, ⟨.num, "1.5", ⟨1, 4⟩, ⟨0, 1⟩⟩,
      ⟨.times, "*", ⟨5, 6⟩, ⟨1, 0⟩⟩, t]
    let us : Tokens := [⟨.lparen, "begin", ⟨9, 14⟩, ⟨2, 3⟩⟩, ⟨.num, "1.5", ⟨8, 11⟩, ⟨0, 8⟩⟩,
      ⟨.times, "", ⟨0, 0⟩, ⟨5, 5⟩⟩, u]
    List.Forall₂ Token.Agrees ts us ∧
      ofTokens ts = .error (.unexpectedToken .operand t) ∧
      ofTokens us = .error (.unexpectedToken .operand u) ∧
      ParseError.RaisedAt (.unexpectedToken .operand t) ts 3 ∧
      ParseError.RaisedAt (.unexpectedToken .operand u) us 3 := by
  intro t u ts us
  have hagree : List.Forall₂ Token.Agrees ts us :=
    .cons ⟨rfl, nofun⟩ (.cons ⟨rfl, fun _ => rfl⟩ (.cons ⟨rfl, nofun⟩ (.cons ⟨rfl, nofun⟩ .nil)))
  have hts : ofTokens ts = .error (.unexpectedToken .operand t) :=
    eq_error_of_map (by decide +kernel)
  have hindex : ParseError.index (Level.sum.parse ts).taken (.unexpectedToken .operand t) = 3 := by
    decide +kernel
  rcases ofTokens_agree ts us hagree with ⟨e, hok, _⟩ | ⟨err, err', i, herr, hus, hrelated, h, h'⟩
  · rw [hts] at hok
    cases hok
  · obtain rfl := Except.error.inj (hts.symm.trans herr)
    obtain rfl : 3 = i := hindex.symm.trans h.index
    cases hrelated with
    | unexpectedToken expected _ =>
      obtain rfl : _ = u := (Option.some.inj h'.token).symm
      exact ⟨hagree, hts, hus, h, h'⟩

end Expr

end Reckoner
