import Reckoner.Expr.OfText
import Reckoner.Proofs.Expr.Agreement
import Reckoner.Proofs.Lexer.Scan

/-! Where tokens stand does not matter to the parser: it reads their kinds and lexemes. So tokens that
differ in their places only make up the same expression, or give errors that differ in a place. -/

namespace Reckoner

/-- The token without its place. -/
def Token.unplaced {κ : Type} (t : Token κ) : Token κ := { t with span := ⟨0, 0⟩, position := .start }

/-- The error with another token in place of its own. -/
def ParseError.mapToken (f : Token TokenKind → Token TokenKind) : ParseError → ParseError
  | unexpectedToken expected t => unexpectedToken expected (f t)
  | unexpectedEnd expected => unexpectedEnd expected
  | trailingToken t => trailingToken (f t)
  | invalidNumber t => invalidNumber (f t)

/-- The variant of an error, what was expected, and the kind and lexeme that were found; or the
character that no lexeme begins with. -/
def SyntaxError.unplaced : SyntaxError → SyntaxError
  | lexical e => lexical { e with offset := 0, position := .start }
  | grammatical e => grammatical (e.mapToken Token.unplaced)

theorem Token.agrees_of_piece {t u : Token TokenKind} (h : t.piece = u.piece) : t.Agrees u :=
  have ⟨hkind, hlexeme⟩ := Prod.mk.inj h
  ⟨hkind, fun _ => String.toList_injective hlexeme⟩

theorem Token.unplaced_congr {t u : Token TokenKind} (h : t.piece = u.piece) :
    t.unplaced = u.unplaced := by
  obtain ⟨hkind, hlexeme⟩ := Prod.mk.inj h
  simp [unplaced, hkind, String.toList_injective hlexeme]

theorem ParseError.Related.mapToken_eq {R : Token TokenKind → Token TokenKind → Prop}
    {f : Token TokenKind → Token TokenKind} (hf : ∀ t u, R t u → f t = f u) {err err' : ParseError}
    (h : err.Related R err') : err.mapToken f = err'.mapToken f := by
  cases h with
  | unexpectedEnd expected => rfl
  | unexpectedToken _ h | trailingToken h | invalidNumber h => simp only [mapToken, hf _ _ h]

namespace Expr

/-- Tokens with the same kinds and lexemes make up the same expression, or give errors that differ in
their places only. -/
theorem ofTokens_congr {ts us : Tokens} (h : ts.map Token.piece = us.map Token.piece) :
    (ofTokens ts).mapError (ParseError.mapToken Token.unplaced) =
      (ofTokens us).mapError (ParseError.mapToken Token.unplaced) := by
  have hpieces : List.Forall₂ (fun t u => Token.piece t = Token.piece u) ts us := by
    refine List.forall₂_map_left_iff.1 (List.forall₂_map_right_iff.1 ?_)
    rw [h]
    exact List.forall₂_refl _
  have hrelated := (ofTokens_related (fun _ _ => Token.agrees_of_piece) hpieces).2
  rcases hrelated with ⟨e, hts, hus⟩ | ⟨err, err', hts, hus, herr⟩
  · rw [hts, hus]
  · rw [hts, hus]
    have hunplaced := herr.mapToken_eq fun t u (h : t.piece = u.piece) => Token.unplaced_congr h
    exact congrArg Except.error hunplaced

section Text

variable {text : String} {ts : Tokens} {err : LexError}

theorem value_traceText (raw : Bool) (text : String) :
    (Tokens.traceText raw text).value = if raw then lexAll text else lex text := by
  show _ = if raw then (Lexer.arithmetic.scanText text).allTokens
    else (Lexer.arithmetic.scanText text).tokens
  unfold Tokens.traceText
  cases h : if raw then (Lexer.arithmetic.scanText text).allTokens
    else (Lexer.arithmetic.scanText text).tokens <;> simp [h]

theorem ofText_of_lex_error (h : lex text = .error err) : ofText text = .error (.lexical err) := by
  rw [ofText, traceText, Traced.bind, value_traceText, if_neg Bool.false_ne_true, h]
  rfl

theorem ofText_of_lex (h : lex text = .ok ts) :
    ofText text = (ofTokens ts).mapError .grammatical := by
  rw [ofText, traceText, Traced.bind, value_traceText, if_neg Bool.false_ne_true, h]
  rfl

end Text

end Expr

end Reckoner
