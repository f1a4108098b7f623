import Reckoner.Proofs.Expr.Place
import Reckoner.Proofs.Lexer.Blanks

/-! Blanks between tokens do not matter to a reader of expressions. Text with blanks put in where a token
ends, or with a run of blanks left out, has the same tokens that are not blanks, and so writes the
same expression or has the same error somewhere else, unless two numbers become one. -/

namespace Reckoner

open Lexer

/-- Both texts have tokens, of the same kinds and lexemes, and write the same expression or have the same
error up to its place. -/
def SameReading (text other : String) : Prop :=
  (∃ ts us, lex text = .ok ts ∧ lex other = .ok us ∧ us.map Token.piece = ts.map Token.piece) ∧
    (Expr.ofText other).mapError SyntaxError.unplaced =
      (Expr.ofText text).mapError SyntaxError.unplaced

/-- The tokens are numbers, and together would make another number. -/
def Token.Join (left right : Token TokenKind) : Prop :=
  left.kind = .num ∧ right.kind = .num ∧ ∃ c ∈ right.lexeme.toList.head?, c.isDigit

theorem SameReading.of_pieces {text other : String} {ts us : Tokens} (hts : lex text = .ok ts)
    (hus : lex other = .ok us) (hsame : us.map Token.piece = ts.map Token.piece) :
    SameReading text other := by
  refine ⟨⟨ts, us, hts, hus, hsame⟩, ?_⟩
  have hplace : ∀ r : Except ParseError Expr,
      (r.mapError SyntaxError.grammatical).mapError SyntaxError.unplaced =
        (r.mapError (ParseError.mapToken Token.unplaced)).mapError .grammatical := by
    intro r
    cases r <;> rfl
  rw [Expr.ofText_of_lex hts, Expr.ofText_of_lex hus, hplace, hplace, Expr.ofTokens_congr hsame]

theorem SameReading.of_lexes {text other : String} {pieces : List (TokenKind × List Char)}
    (h : Lexes text.toList pieces) (h' : Lexes other.toList pieces) : SameReading text other := by
  obtain ⟨ts, hts, hpieces⟩ := lex_eq_ok_iff.2 h
  obtain ⟨us, hus, hpieces'⟩ := lex_eq_ok_iff.2 h'
  exact .of_pieces hts hus (hpieces'.trans hpieces.symm)

/-- In a text that has tokens, blanks may be put in at its beginning and where any of its tokens ends.
A whole token of blanks may be left out unless it parts two numbers that would join. -/
theorem blanks_between_tokens (text : String) (raw : Tokens) (h : lexAll text = .ok raw) :
    (∀ k : Nat, ∃ first second, text = first ++ second ∧
      first.utf8ByteSize = endOf (raw.take k) ∧
      ∀ blanks : String, (∀ c ∈ blanks.toList, IsBlank c) →
        SameReading text (first ++ blanks ++ second)) ∧
    ∀ (before after : Tokens) (blank : Token TokenKind), raw = before ++ blank :: after →
      blank.kind = .whitespace →
      (¬ ∃ left ∈ before.getLast?, ∃ right ∈ after.head?, left.Join right) →
      ∃ first second, text = first ++ blank.lexeme ++ second ∧
        first.utf8ByteSize = blank.span.start ∧ SameReading text (first ++ second) := by
  obtain ⟨pieces, htext, hmunched, rfl⟩ := tokenizeAll_eq_ok.1 h
  have hlexes : Lexes text.toList (significant pieces) := ⟨pieces, htext, hmunched, rfl⟩
  refine ⟨fun k => ?_, fun before after blank hraw hkind hjoin => ?_⟩
  · have hpieces : pieces.take k ++ pieces.drop k = pieces := List.take_append_drop k pieces
    refine ⟨String.ofList (spell (pieces.take k)), String.ofList (spell (pieces.drop k)), ?_, ?_, ?_⟩
    · rw [← String.ofList_append, ← spell_append, hpieces, ← htext, String.ofList_toList]
    · rw [take_place, endOf_place, Text.utf8ByteSize_ofList]
    · intro blanks hblanks
      have hinsert := (hpieces.symm ▸ hmunched).lexes_insert hblanks
      rw [hpieces] at hinsert
      refine .of_lexes hlexes ?_
      simpa using hinsert
  · obtain ⟨hpieces, hstart, _⟩ := place_eq_append_cons hraw
    have hblank : blank.piece = (.whitespace, blank.lexeme.toList) := by rw [Token.piece, hkind]
    rw [hpieces, hblank] at hmunched hlexes htext
    refine ⟨String.ofList (spell (before.map Token.piece)),
      String.ofList (spell (after.map Token.piece)), ?_, ?_, ?_⟩
    · rw [← String.ofList_toList (s := blank.lexeme), ← String.ofList_append, ← String.ofList_append,
        List.append_assoc, ← spell_cons .whitespace, ← spell_append, ← htext, String.ofList_toList]
    · rw [hstart, Text.utf8ByteSize_ofList, Nat.zero_add]
    · refine .of_lexes hlexes ?_
      have herase := hmunched.lexes_erase fun left hleft hkind right hright hfuses => ?_
      · simpa using herase
      · rw [List.getLast?_map] at hleft
        rw [List.head?_map] at hright
        obtain ⟨l, hl, rfl⟩ := Option.map_eq_some_iff.1 hleft
        obtain ⟨r, hr, rfl⟩ := Option.map_eq_some_iff.1 hright
        rcases hfuses with ⟨hwhite, _⟩ | hjoins
        · exact hkind hwhite
        · exact hjoin ⟨l, hl, r, hr, hjoins⟩

/-- Two numbers with a blank between them, of which the second begins with the point, in a text that is no
expression. -/
theorem blanks_between_tokens_of_numbers :
    let opening : Token TokenKind := ⟨.lparen, "(", ⟨0, 1⟩, ⟨0, 0⟩⟩
    let left : Token TokenKind := ⟨.num, "1.5", ⟨1, 4⟩, ⟨0, 1⟩⟩
    let blank : Token TokenKind := ⟨.whitespace, " ", ⟨4, 5⟩, ⟨0, 4⟩⟩
    let right : Token TokenKind := ⟨.num, ".5", ⟨5, 7⟩, ⟨0, 5⟩⟩
    lexAll "(1.5 .5" = .ok [opening, left, blank, right] ∧
    (∃ first second, "(1.5 .5" = first ++ second ∧ first.utf8ByteSize = 1 ∧
      SameReading "(1.5 .5" (first ++ "\n\t" ++ second)) ∧
    ¬ left.Join right ∧
    ∃ first second, "(1.5 .5" = first ++ " " ++ second ∧ first.utf8ByteSize = 4 ∧
      SameReading "(1.5 .5" (first ++ second) := by
  intro opening left blank right
  have hraw : lexAll "(1.5 .5" = .ok [opening, left, blank, right] := by decide +kernel
  obtain ⟨hinsert, herase⟩ := blanks_between_tokens _ _ hraw
  obtain ⟨first, second, htext, hsize, hsame⟩ := hinsert 1
  have hjoin : ¬ left.Join right := by
    rintro ⟨_, _, c, hc, hdigit⟩
    have hpoint : right.lexeme.toList.head? = some '.' := by decide
    obtain rfl : '.' = c := Option.some.inj (hpoint.symm.trans hc)
    exact absurd hdigit (by decide)
  refine ⟨hraw, ⟨first, second, htext, hsize, hsame _ (by simp [IsBlank])⟩, hjoin, ?_⟩
  refine herase [opening, left] [right] blank rfl rfl ?_
  rintro ⟨l, hl, r, hr, hjoins⟩
  obtain rfl : left = l := Option.some.inj hl
  obtain rfl : right = r := Option.some.inj hr
  exact hjoin hjoins

end Reckoner
