import Reckoner.Expr.Grammar

/-! Parentheses around tokens. The depth after some tokens is the number of parentheses that are open.
In tokens that derive an expression the parentheses match: the depth is never negative, and it is zero
at the end. -/

namespace Reckoner

/-- How a token of the kind changes the depth. -/
def TokenKind.nesting : TokenKind → Int
  | lparen => 1
  | rparen => -1
  | _ => 0

namespace Tokens

/-- The opening parentheses among the tokens, less the closing ones. -/
def depth : Tokens → Int
  | [] => 0
  | t :: ts => t.kind.nesting + depth ts

/-- Every parenthesis has its partner: a closing one an opening one before it, and none is left open. -/
structure Balanced (ts : Tokens) : Prop where
  nonneg : ∀ i, 0 ≤ depth (ts.take i)
  closed : ts.depth = 0

variable {ts us vs : Tokens} {t u : Token TokenKind}

@[simp] theorem depth_nil : depth [] = 0 := rfl

@[simp] theorem depth_cons (t : Token TokenKind) (ts : Tokens) :
    depth (t :: ts) = t.kind.nesting + depth ts := rfl

@[simp] theorem depth_append (ts us : Tokens) : depth (ts ++ us) = depth ts + depth us := by
  induction ts with
  | nil => simp
  | cons t ts ih => simp [ih, Int.add_assoc]

theorem Balanced.append (hts : ts.Balanced) (hus : us.Balanced) : Balanced (ts ++ us) where
  nonneg i := by
    rw [List.take_append, depth_append]
    exact Int.add_nonneg (hts.nonneg i) (hus.nonneg _)
  closed := by rw [depth_append, hts.closed, hus.closed, Int.add_zero]

theorem balanced_singleton (ht : t.kind.nesting = 0) : Balanced [t] where
  nonneg i := by cases i <;> simp [ht]
  closed := by simp [ht]

theorem Balanced.join (hus : us.Balanced) (ht : t.kind.nesting = 0) (hvs : vs.Balanced) :
    Balanced (us ++ t :: vs) :=
  hus.append ((balanced_singleton ht).append hvs)

/-- Between parentheses the depth is at least one. -/
theorem Balanced.depth_take_parens (hts : ts.Balanced) (ht : t.kind = .lparen)
    (hu : u.kind = .rparen) (i : Nat) :
    depth ((t :: ts ++ [u]).take (i + 1)) =
      if i ≤ ts.length then 1 + depth (ts.take i) else 0 := by
  rw [List.cons_append, List.take_succ_cons, depth_cons, List.take_append, depth_append, ht]
  split
  next hle => simp [TokenKind.nesting, Nat.sub_eq_zero_of_le hle]
  next hlt =>
    obtain ⟨k, hk⟩ : ∃ k, i - ts.length = k + 1 := ⟨i - ts.length - 1, by omega⟩
    rw [List.take_of_length_le (by omega), hts.closed, hk]
    simp [TokenKind.nesting, hu]

theorem Balanced.parens (hts : ts.Balanced) (ht : t.kind = .lparen) (hu : u.kind = .rparen) :
    Balanced (t :: ts ++ [u]) where
  nonneg i := by
    cases i with
    | zero => simp
    | succ i =>
      have hnonneg := hts.nonneg i
      rw [hts.depth_take_parens ht hu]
      split <;> omega
  closed := by simp [TokenKind.nesting, ht, hu, hts.closed]

end Tokens

/-- The parentheses of tokens that derive an expression match. -/
theorem Level.Derives.balanced {level : Level} {ts : Tokens} {e : Expr} (h : level.Derives ts e) :
    ts.Balanced := by
  induction h with
  | number hkind => exact Tokens.balanced_singleton (by rw [hkind]; rfl)
  | parens hopen _ hclose ih => exact ih.parens hopen hclose
  | ofLiteral _ ih | ofProduct _ ih => exact ih
  | mul _ ht _ ihl ihr | div _ ht _ ihl ihr | add _ ht _ ihl ihr | sub _ ht _ ihl ihr =>
    exact ihl.join (by rw [ht]; rfl) ihr

end Reckoner
