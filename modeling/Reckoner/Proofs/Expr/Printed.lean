import Reckoner.Proofs.Decimal.Plain
import Reckoner.Proofs.Expr.Grammar
import Reckoner.Proofs.Expr.Place
import Reckoner.Proofs.Lexer.Blanks

/-! Reading the printed form of an expression. Parentheses around every operation keep its shape, so the
text reads back if every literal is written as a number of arithmetic. A literal that is written
otherwise makes the lexer fail, or begins with a minus where an operand is expected. -/

namespace Reckoner

open Lexer

def BinaryOp.tokenKind : BinaryOp → TokenKind
  | add => .plus
  | sub => .minus
  | mul => .times
  | div => .div

namespace Expr

/-- The literals from left to right. -/
def literals : Expr → List Float
  | literal x => [x]
  | binary _ l r => l.literals ++ r.literals

/-- Every literal is written as a number of arithmetic. -/
def Numeral (e : Expr) : Prop := ∀ x ∈ e.literals, IsNumber (Decimal.plain.text x).toList

/-- The other expression has the same shape and the same operations, and each of its literals is the
value read from the text of the literal in its place. -/
inductive Reread : Expr → Expr → Prop
  | literal {x y : Float} : Decimal.read (Decimal.plain.text x) = some y →
      Reread (.literal x) (.literal y)
  | binary {op : BinaryOp} {l r l' r' : Expr} : Reread l l' → Reread r r' →
      Reread (.binary op l r) (.binary op l' r')

/-- The lexemes of the printed form if every literal is one. -/
def pieces : Expr → List (TokenKind × List Char)
  | literal x => [(.num, (Decimal.plain.text x).toList)]
  | binary op l r =>
    (.lparen, ['(']) :: l.pieces ++ (op.tokenKind, [op.symbol]) :: r.pieces ++ [(.rparen, [')'])]

variable {e e' l r : Expr} {op : BinaryOp} {cs rest : List Char} {ps : List (TokenKind × List Char)}
  {t : Token TokenKind} {ts us taken : Tokens}

theorem numeral_binary : (binary op l r).Numeral ↔ l.Numeral ∧ r.Numeral := by
  simp only [Numeral, literals, List.forall_mem_append]

theorem Reread.eq (h : e.Reread e')
    (hread : ∀ x ∈ e.literals, Decimal.read (Decimal.plain.text x) = some x) : e' = e := by
  induction h with
  | @literal x y hy =>
    have hx := hread x List.mem_cons_self
    rw [Option.some.inj (hy.symm.trans hx)]
  | binary _ _ ihl ihr =>
    obtain ⟨hl, hr⟩ := List.forall_mem_append.1 hread
    rw [ihl hl, ihr hr]

theorem toList_text_binary (op : BinaryOp) (l r : Expr) (rest : List Char) :
    (binary op l r).text.toList ++ rest =
      '(' :: (l.text.toList ++ ' ' :: op.symbol :: ' ' :: (r.text.toList ++ ')' :: rest)) := by
  simp [text, Char.toString_eq_singleton]

/-! The printed form as lexemes. -/

/-- What stands after an operand in the printed form: a blank, a closing parenthesis, or nothing. -/
def Closed (rest : List Char) : Prop := ∀ c ∈ rest.head?, c = ' ' ∨ c = ')'

theorem Closed.no_digit (h : Closed rest) : ∀ c ∈ rest.head?, c.isDigit = false := by
  intro c hc
  rcases h c hc with rfl | rfl <;> decide

theorem closed_nil : Closed [] := fun _ hc => nomatch hc

theorem closed_blank : Closed (' ' :: cs) := fun _ hc => .inl (Option.some.inj hc).symm

theorem closed_paren : Closed (')' :: cs) := fun _ hc => .inr (Option.some.inj hc).symm

theorem lexes_symbol_iff {k : TokenKind} {c : Char} (h : k.Spells [c]) (hnum : k ≠ .num)
    (hblank : k ≠ .whitespace) :
    Lexes (c :: cs) ps ↔ ∃ others, ps = (k, [c]) :: others ∧ Lexes cs others := by
  show Lexes ([c] ++ cs) ps ↔ _
  refine lexes_token_iff h hblank fun d _ hextends => ?_
  cases k with
  | num => exact hnum rfl
  | whitespace => exact hblank rfl
  | _ => exact hextends

theorem spells_symbol (op : BinaryOp) : op.tokenKind.Spells [op.symbol] := by cases op <;> rfl

theorem lexes_operator_iff (op : BinaryOp) :
    Lexes (' ' :: op.symbol :: ' ' :: cs) ps ↔
      ∃ others, ps = (op.tokenKind, [op.symbol]) :: others ∧ Lexes cs others := by
  have hblank : IsBlank ' ' := by decide
  rw [lexes_blank_iff hblank, lexes_symbol_iff (spells_symbol op) (by cases op <;> decide)
    (by cases op <;> decide)]
  simp only [lexes_blank_iff hblank]

theorem lexes_text_iff (he : e.Numeral) (hrest : Closed rest) :
    Lexes (e.text.toList ++ rest) ps ↔ ∃ others, ps = e.pieces ++ others ∧ Lexes rest others := by
  induction e generalizing rest ps with
  | literal x =>
    have hx : TokenKind.num.Spells (Decimal.plain.text x).toList := he x List.mem_cons_self
    refine lexes_token_iff hx (by decide) fun c hc hdigit => ?_
    exact Bool.false_ne_true ((hrest.no_digit c hc).symm.trans hdigit)
  | binary op l r ihl ihr =>
    obtain ⟨hl, hr⟩ := numeral_binary.1 he
    simp only [toList_text_binary, lexes_symbol_iff (k := .lparen) rfl (by decide) (by decide),
      ihl hl closed_blank, lexes_operator_iff, ihr hr closed_paren,
      lexes_symbol_iff (k := .rparen) rfl (by decide) (by decide), pieces]
    constructor
    · rintro ⟨_, rfl, _, rfl, _, rfl, _, rfl, others, rfl, hothers⟩
      exact ⟨others, by simp, hothers⟩
    · rintro ⟨others, rfl, hothers⟩
      exact ⟨_, rfl, _, by simp, _, rfl, _, rfl, others, rfl, hothers⟩

/-! Texts of literals that are no numbers of arithmetic. -/

theorem not_lexes_of_first {c : Char} (h : TokenKind.ofFirst? c = none) : ¬ Lexes (c :: cs) ps := by
  rintro ⟨all, htext, hall, _⟩
  cases all with
  | nil => cases htext
  | cons piece all =>
    obtain ⟨kind, word⟩ := piece
    have hword := (munched_cons_iff.1 hall).1
    obtain ⟨d, tail, rfl⟩ := List.exists_cons_of_ne_nil hword.ne_nil
    obtain ⟨rfl, _⟩ := List.cons.inj htext
    exact absurd (h.symm.trans hword.first) (by simp)

/-- Digits without a point are no lexeme, and no point can follow. -/
theorem not_lexes_integer {word : List Char} (hword : Decimal.IsInteger word) (hrest : Closed rest) :
    ¬ Lexes (word ++ rest) ps := by
  rintro ⟨all, htext, hall, _⟩
  obtain ⟨hne, hdigits⟩ := hword
  obtain ⟨c, word, rfl⟩ := List.exists_cons_of_ne_nil hne
  cases all with
  | nil => cases htext
  | cons piece all =>
    obtain ⟨kind, first⟩ := piece
    have hfirst := (munched_cons_iff.1 hall).1
    obtain ⟨d, tail, rfl⟩ := List.exists_cons_of_ne_nil hfirst.ne_nil
    obtain ⟨rfl, _⟩ := List.cons.inj htext
    have hkind : some kind = some .num := by
      rw [← hfirst.first]
      simp [TokenKind.ofFirst?, hdigits c List.mem_cons_self]
    obtain rfl := Option.some.inj hkind
    -- The digits end at the rest on one side and at a point on the other.
    obtain ⟨whole, fraction, hnumber, hwhole, _⟩ := hfirst
    have hpoint := digits_stop_at_point (fraction ++ spell all)
    have hdrop := dropWhile_append_of_stop hdigits hrest.no_digit
    rw [htext, spell_cons, hnumber, List.append_assoc, List.cons_append,
      dropWhile_append_of_stop hwhole hpoint] at hdrop
    rcases hrest '.' (by rw [← hdrop]; rfl) with h | h <;> cases h

/-- A literal that is not written as a number of arithmetic begins with a minus, or the lexer fails at
it. -/
theorem lexes_literal {x : Float} (hx : ¬ IsNumber (Decimal.plain.text x).toList)
    (hrest : Closed rest) (h : Lexes ((Decimal.plain.text x).toList ++ rest) ps) :
    ∃ others, ps = (.minus, ['-']) :: others := by
  have hminus : ∀ word, Lexes (Decimal.signText true ++ word ++ rest) ps →
      ∃ others, ps = (.minus, ['-']) :: others := by
    intro word h
    obtain ⟨others, hps, _⟩ := (lexes_symbol_iff (k := .minus) rfl (by decide) (by decide)).1 h
    exact ⟨others, hps⟩
  have hform := Decimal.plainForm_text x
  generalize (Decimal.plain.text x).toList = cs at hx h hform
  cases hform with
  | nan => exact absurd h (not_lexes_of_first (by decide))
  | infinite negative =>
    cases negative with
    | false => exact absurd h (not_lexes_of_first (by decide))
    | true => exact hminus _ h
  | integer negative hword =>
    cases negative with
    | false => exact absurd h (not_lexes_integer hword hrest)
    | true => exact hminus _ h
  | number negative hword =>
    cases negative with
    | false => exact absurd hword hx
    | true => exact hminus _ h

/-! The lexemes of the printed form as an expression. -/

theorem derives_operation (hl : Level.literal.Derives ts l) (ht : t.kind = op.tokenKind)
    (hr : Level.literal.Derives us r) : Level.sum.Derives (ts ++ t :: us) (.binary op l r) := by
  cases op with
  | add => exact .add (.ofLiteral hl) ht (.ofProduct (.ofLiteral hr))
  | sub => exact .sub (.ofLiteral hl) ht (.ofProduct (.ofLiteral hr))
  | mul => exact .ofProduct (.mul hl ht (.ofLiteral hr))
  | div => exact .ofProduct (.div hl ht (.ofLiteral hr))

theorem kind_of_piece {k : TokenKind} {word : List Char} (h : t.piece = (k, word)) : t.kind = k :=
  congrArg Prod.fst h

/-- The tokens of an operation up to its sign, and the tokens after it. -/
theorem tokens_of_operation {k : TokenKind} {word word' : List Char}
    {left right : List (TokenKind × List Char)}
    (hts : ts.map Token.piece = (.lparen, word) :: (left ++ (k, word') :: right)) :
    ∃ t tl o us, ts = t :: (tl ++ o :: us) ∧ t.kind = .lparen ∧ tl.map Token.piece = left ∧
      o.kind = k ∧ us.map Token.piece = right := by
  obtain ⟨t, ts, rfl, ht, hts⟩ := List.map_eq_cons_iff.1 hts
  obtain ⟨tl, ts, rfl, htl, hts⟩ := List.map_eq_append_iff.1 hts
  obtain ⟨o, us, rfl, ho, hus⟩ := List.map_eq_cons_iff.1 hts
  exact ⟨t, tl, o, us, rfl, kind_of_piece ht, htl, kind_of_piece ho, hus⟩

theorem derives_pieces (he : e.Numeral) (hts : ts.map Token.piece = e.pieces) :
    ∃ e', e.Reread e' ∧ Level.literal.Derives ts e' := by
  induction e generalizing ts with
  | literal x =>
    obtain ⟨t, rfl, ht⟩ := List.map_eq_singleton_iff.1 hts
    obtain ⟨y, hy⟩ := Decimal.read_number (he x List.mem_cons_self)
    have hlexeme : t.lexeme = Decimal.plain.text x :=
      String.toList_injective (congrArg Prod.snd ht)
    exact ⟨.literal y, .literal hy, .number (kind_of_piece ht) (by rw [hlexeme, hy])⟩
  | binary op l r ihl ihr =>
    obtain ⟨hl, hr⟩ := numeral_binary.1 he
    rw [pieces, List.append_assoc] at hts
    obtain ⟨t, tl, o, us, rfl, ht, htl, ho, hus⟩ := tokens_of_operation hts
    obtain ⟨tr, close, rfl, htr, hclose⟩ := List.map_eq_append_iff.1 hus
    obtain ⟨u, rfl, hu⟩ := List.map_eq_singleton_iff.1 hclose
    obtain ⟨l', hl', hdl⟩ := ihl hl htl
    obtain ⟨r', hr', hdr⟩ := ihr hr htr
    have hd := Level.Derives.parens ht (derives_operation hdl ho hdr) (kind_of_piece hu)
    exact ⟨.binary op l' r', .binary hl' hr', by simpa using hd⟩

theorem reads_error_of_operand {err : ParseError} (h : Level.literal.Reads ts taken (.error err))
    (level : Level) : level.Reads ts taken (.error err) := by
  cases level with
  | literal => exact h
  | product => exact .inOperand rfl h
  | sum => exact .inOperand rfl (.inOperand rfl h)

theorem reads_operation_error {err : ParseError} (hl : Level.literal.Derives ts l)
    (ht : t.kind = op.tokenKind) (hr : Level.literal.Reads us taken (.error err)) :
    Level.sum.Reads (ts ++ t :: us) (ts ++ t :: taken) (.error err) := by
  have hleft : Level.literal.Reads (ts ++ t :: us) ts (.ok (l, t :: us)) :=
    hl.reads (Level.stops_literal _)
  have hproduct : Level.product.operator? t.kind = none →
      Level.product.Reads (ts ++ t :: us) ts (.ok (l, t :: us)) := fun hnone =>
    .alone rfl hleft fun u hu => Option.some.inj hu ▸ hnone
  cases op with
  | add | sub =>
    exact .inRight rfl (hproduct (by rw [ht]; rfl)) (by rw [ht]; rfl) (reads_error_of_operand hr .sum)
  | mul | div =>
    exact .inOperand rfl
      (.inRight rfl hleft (by rw [ht]; rfl) (reads_error_of_operand hr .product))

/-- Where the lexer gets past a literal that is no number of arithmetic, the parser does not. -/
theorem reads_error_of_not_numeral (he : ¬ e.Numeral) (hrest : Closed rest)
    (h : Lexes (e.text.toList ++ rest) ps) (hts : ts.map Token.piece = ps) :
    ∃ taken err, Level.literal.Reads ts taken (.error err) := by
  induction e generalizing rest ps ts with
  | literal x =>
    have hx : ¬ IsNumber (Decimal.plain.text x).toList := fun hx =>
      he fun y hy => List.mem_singleton.1 hy ▸ hx
    obtain ⟨others, rfl⟩ := lexes_literal hx hrest h
    obtain ⟨t, us, rfl, ht, _⟩ := List.map_eq_cons_iff.1 hts
    have hkind := kind_of_piece ht
    exact ⟨_, _, .noOperand (by rw [hkind]; decide) (by rw [hkind]; decide)⟩
  | binary op l r ihl ihr =>
    rw [toList_text_binary] at h
    obtain ⟨others, rfl, hleft⟩ := (lexes_symbol_iff (k := .lparen) rfl (by decide) (by decide)).1 h
    by_cases hl : l.Numeral
    · obtain ⟨_, rfl, hop⟩ := (lexes_text_iff hl closed_blank).1 hleft
      obtain ⟨_, rfl, hright⟩ := (lexes_operator_iff op).1 hop
      obtain ⟨t, tl, o, us, rfl, ht, htl, ho, hus⟩ := tokens_of_operation hts
      obtain ⟨l', _, hdl⟩ := derives_pieces hl htl
      have hr : ¬ r.Numeral := fun hr => he (numeral_binary.2 ⟨hl, hr⟩)
      obtain ⟨taken, err, hread⟩ := ihr hr closed_paren hright hus
      exact ⟨_, err, .inParens ht (reads_operation_error hdl ho hread)⟩
    · obtain ⟨t, us, rfl, ht, hus⟩ := List.map_eq_cons_iff.1 hts
      obtain ⟨taken, err, hread⟩ := ihl hl closed_blank hleft hus
      exact ⟨_, err, .inParens (kind_of_piece ht) (reads_error_of_operand hread .sum)⟩

theorem ofText_text_of_numeral (he : e.Numeral) : ∃ e', e.Reread e' ∧ ofText e.text = .ok e' := by
  have hlexes : Lexes (e.text.toList ++ []) e.pieces :=
    (lexes_text_iff he closed_nil).2 ⟨[], by simp, lexes_nil⟩
  rw [List.append_nil] at hlexes
  obtain ⟨ts, hts, hpieces⟩ := lex_eq_ok_iff.2 hlexes
  obtain ⟨e', hreread, hd⟩ := derives_pieces he hpieces
  have hok : ofTokens ts = .ok e' := ofTokens_iff.2 (.ofProduct (.ofLiteral hd))
  refine ⟨e', hreread, ?_⟩
  rw [ofText_of_lex hts, hok]
  rfl

theorem numeral_of_ofText_text (h : ofText e.text = .ok e') : e.Numeral := by
  by_contra he
  cases hlex : lex e.text with
  | error err =>
    rw [ofText_of_lex_error hlex] at h
    cases h
  | ok ts =>
    have hlexes : Lexes (e.text.toList ++ []) (ts.map Token.piece) := by
      rw [List.append_nil]
      exact lex_eq_ok_iff.1 ⟨ts, hlex, rfl⟩
    obtain ⟨taken, err, hread⟩ := reads_error_of_not_numeral he closed_nil hlexes rfl
    have herr : ofTokens ts = .error err := (reads_error_of_operand hread .sum).ofTokens_eq
    rw [ofText_of_lex hlex, herr] at h
    cases h

/-- The printed form of an expression is read exactly if every literal is written as a number of
arithmetic, so not if a literal is not a number, infinite, negative or whole. What is read has
the same shape and operations, with the values read from the texts of the literals, and is the
expression itself if these texts read back. -/
theorem ofText_text_iff (e : Expr) :
    ((∃ e', ofText e.text = .ok e') ↔ ∀ x ∈ e.literals, IsNumber (Decimal.plain.text x).toList) ∧
    (∀ x ∈ e.literals, (Decimal.Binary64.ofFloat x).NoNumeral → ∀ e', ofText e.text ≠ .ok e') ∧
    ∀ e', ofText e.text = .ok e' → e.Reread e' ∧
      ((∀ x ∈ e.literals, Decimal.read (Decimal.plain.text x) = some x) → e' = e) := by
  have hreread : ∀ e', ofText e.text = .ok e' → e.Reread e' := by
    intro e' h
    obtain ⟨other, hreread, hok⟩ := ofText_text_of_numeral (numeral_of_ofText_text h)
    obtain rfl := Except.ok.inj (h.symm.trans hok)
    exact hreread
  refine ⟨⟨?_, ?_⟩, ?_, fun e' h => ⟨hreread e' h, (hreread e' h).eq⟩⟩
  · rintro ⟨e', h⟩
    exact numeral_of_ofText_text h
  · intro he
    obtain ⟨e', _, hok⟩ := ofText_text_of_numeral he
    exact ⟨e', hok⟩
  · intro x hx hnone e' h
    exact Decimal.not_isNumber_of_noNumeral hnone (numeral_of_ofText_text h x hx)

/-- A text that reads back, and one with a whole literal, which does not. -/
theorem ofText_text_iff_quarters :
    let e := binary .sub (literal 1.5) (binary .div (literal 0.25) (literal 7.75))
    (∀ x ∈ e.literals, Decimal.read (Decimal.plain.text x) = some x) ∧ ofText e.text = .ok e ∧
      ∀ e', ofText (binary .sub (literal 1.5) (literal 2)).text ≠ .ok e' := by
  intro e
  have hread : ∀ x ∈ e.literals, Decimal.read (Decimal.plain.text x) = some x := by
    decide +kernel
  have hnumeral : e.Numeral := by
    intro x hx
    have hx : x = 1.5 ∨ x = 0.25 ∨ x = 7.75 := by simpa [e, literals] using hx
    rcases hx with rfl | rfl | rfl
    · exact ⟨['1'], ['5'], by decide +kernel, by simp, by simp, by simp⟩
    · exact ⟨['0'], ['2', '5'], by decide +kernel, by simp, by simp, by simp⟩
    · exact ⟨['7'], ['7', '5'], by decide +kernel, by simp, by simp, by simp⟩
  obtain ⟨e', he'⟩ := (ofText_text_iff e).1.2 hnumeral
  obtain rfl : e' = e := ((ofText_text_iff e).2.2 e' he').2 hread
  refine ⟨hread, he', (ofText_text_iff (binary .sub (literal 1.5) (literal 2))).2.1 2 ?_ ?_⟩
  · simp [literals]
  · have htwo : Decimal.Binary64.ofFloat 2 = .finite false (2 ^ 52) (-51) true := by decide +kernel
    rw [htwo]
    exact .inr (.inr (by decide))

end Expr
end Reckoner
