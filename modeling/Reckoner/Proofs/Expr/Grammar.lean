import Reckoner.Proofs.Expr.Reading

/-! The parser accepts exactly the grammar. What a level takes derives its expression, and the rest
does not go on with the level. Conversely a level that meets tokens derived from it takes them and
no more, whatever follows that does not go on with the level. So tokens derive at most one
expression. -/

namespace Reckoner

namespace Level

/-- The tokens do not go on with an expression of the level. -/
def Stops (level : Level) (rest : Tokens) : Prop :=
  ∀ t ∈ rest.head?, level.continues t.kind = false

variable {level tighter : Level} {ts us taken rest : Tokens} {t : Token TokenKind} {e l r : Expr}

theorem stops_nil : level.Stops [] := fun _ ht => nomatch ht

theorem stops_cons : level.Stops (t :: rest) ↔ level.continues t.kind = false := by
  simp [Stops]

theorem stops_literal (rest : Tokens) : literal.Stops rest := fun _ _ => rfl

theorem stops_rparen (ht : t.kind = .rparen) : level.Stops (t :: rest) := by
  rw [stops_cons, ht]
  cases level <;> rfl

theorem stops_iff (hlevel : level.operand? = some tighter) :
    level.Stops rest ↔ (∀ t ∈ rest.head?, level.operator? t.kind = none) ∧ tighter.Stops rest := by
  simp only [Stops, continues_iff hlevel]
  exact ⟨fun h => ⟨fun t ht => (h t ht).1, fun t ht => (h t ht).2⟩,
    fun h t ht => ⟨h.1 t ht, h.2 t ht⟩⟩

/-- A level takes tokens that derive its expression, and leaves tokens that do not go on with it. -/
theorem Reads.sound (h : level.Reads ts taken (.ok (e, rest))) :
    level.Derives taken e ∧ ts = taken ++ rest ∧ level.Stops rest := by
  generalize hresult : Except.ok (e, rest) = result at h
  induction h generalizing e rest with
  | number hkind hx =>
    cases hresult
    exact ⟨.number hkind hx, rfl, stops_literal _⟩
  | parens hkind _ hclose ih =>
    cases hresult
    obtain ⟨hd, rfl, _⟩ := ih rfl
    exact ⟨.parens hkind hd hclose, by simp, stops_literal _⟩
  | alone hlevel _ hrest ih =>
    cases hresult
    obtain ⟨hd, hts, hstops⟩ := ih rfl
    exact ⟨.ofOperand hlevel hd, hts, (stops_iff hlevel).2 ⟨hrest, hstops⟩⟩
  | binary hlevel _ hop _ ihl ihr =>
    cases hresult
    obtain ⟨hl, rfl, _⟩ := ihl rfl
    obtain ⟨hr, rfl, hstops⟩ := ihr rfl
    exact ⟨.binary hlevel hl hop hr, by simp, hstops⟩
  | _ => cases hresult

/-- An operation is read if its operands are, each from tokens that stop its level. -/
theorem reads_binary {op : BinaryOp} (hlevel : level.operand? = some tighter)
    (hl : ∀ rest, tighter.Stops rest → tighter.Reads (ts ++ rest) ts (.ok (l, rest)))
    (hop : level.operator? t.kind = some op) (hr : level.Reads (us ++ rest) us (.ok (r, rest))) :
    level.Reads (ts ++ t :: us ++ rest) (ts ++ t :: us) (.ok (.binary op l r, rest)) := by
  have hleft := hl (t :: us ++ rest) (stops_cons.2 (continues_operator hlevel hop))
  rw [List.append_assoc]
  exact .binary hlevel hleft hop hr

theorem reads_alone (hlevel : level.operand? = some tighter) (hstops : level.Stops rest)
    (h : tighter.Stops rest → tighter.Reads (ts ++ rest) ts (.ok (e, rest))) :
    level.Reads (ts ++ rest) ts (.ok (e, rest)) := by
  obtain ⟨hnone, htighter⟩ := (stops_iff hlevel).1 hstops
  exact .alone hlevel (h htighter) hnone

/-- A level reads the tokens derived from it, and no token after them that does not go on. -/
theorem Derives.reads (h : level.Derives ts e) (hstops : level.Stops rest) :
    level.Reads (ts ++ rest) ts (.ok (e, rest)) := by
  induction h generalizing rest with
  | number hkind hx => exact .number hkind hx
  | @parens t u ts e hkind _ hclose ih =>
    have hinner : sum.Reads (ts ++ u :: rest) ts (.ok (e, u :: rest)) := ih (stops_rparen hclose)
    have htokens : t :: ts ++ [u] ++ rest = t :: (ts ++ u :: rest) := by simp
    rw [htokens]
    exact .parens hkind hinner hclose
  | ofLiteral _ ih => exact reads_alone rfl hstops ih
  | mul _ ht _ ihl ihr => exact reads_binary rfl (fun _ => ihl) (by rw [ht]; rfl) (ihr hstops)
  | div _ ht _ ihl ihr => exact reads_binary rfl (fun _ => ihl) (by rw [ht]; rfl) (ihr hstops)
  | ofProduct _ ih => exact reads_alone rfl hstops ih
  | add _ ht _ ihl ihr => exact reads_binary rfl (fun _ => ihl) (by rw [ht]; rfl) (ihr hstops)
  | sub _ ht _ ihl ihr => exact reads_binary rfl (fun _ => ihl) (by rw [ht]; rfl) (ihr hstops)

theorem Derives.unique {e' : Expr} (h : level.Derives ts e) (h' : level.Derives ts e') : e = e' := by
  obtain ⟨_, hok⟩ := (h.reads stops_nil).unique (h'.reads stops_nil)
  cases hok
  rfl

end Level

theorem Expr.ofTokens_iff {ts : Tokens} {e : Expr} :
    ofTokens ts = .ok e ↔ Level.sum.Derives ts e := by
  rw [ofTokens_eq_ok]
  constructor
  · rintro ⟨taken, h⟩
    obtain ⟨hd, hts, _⟩ := h.sound
    rw [hts, List.append_nil]
    exact hd
  · intro h
    have hread : Level.sum.Reads (ts ++ []) ts (.ok (e, [])) := h.reads Level.stops_nil
    rw [List.append_nil] at hread
    exact ⟨ts, hread⟩

/-- The parser makes an expression of tokens exactly if the grammar derives it from all of them as a
sum, and the grammar derives at most one. -/
theorem Expr.ofTokens_is_grammar (ts : Tokens) :
    (∀ e, ofTokens ts = .ok e ↔ Level.sum.Derives ts e) ∧
    ∀ e e', Level.sum.Derives ts e → Level.sum.Derives ts e' → e = e' :=
  ⟨fun _ => ofTokens_iff, fun _ _ h h' => h.unique h'⟩

end Reckoner
