import Reckoner.Proofs.Lexer.Significant
import Reckoner.Proofs.Text.Lines

/-! Tokens laid out by hand. Lexemes with a blank between each two are cut at the blanks and nowhere
else, and they stand on one line, so the lexer counts the bytes before a token as `Tokens.layOut`
does. -/

namespace Reckoner.Lexer

variable {pairs : List (TokenKind × String)} {piece next : TokenKind × List Char}

/-- The lexemes of the pairs and the blanks between them. -/
def separated : List (TokenKind × String) → List (TokenKind × List Char)
  | [] => []
  | [(kind, lexeme)] => [(kind, lexeme.toList)]
  | (kind, lexeme) :: pair :: pairs =>
    (kind, lexeme.toList) :: (.whitespace, [' ']) :: separated (pair :: pairs)

theorem toList_intercalate_blank (pairs : List (TokenKind × String)) :
    (" ".intercalate (pairs.map Prod.snd)).toList = spell (separated pairs) := by
  fun_induction separated pairs with
  | case1 => rfl
  | case2 kind lexeme => simp [spell]
  | case3 kind lexeme pair pairs ih =>
    rw [List.map_cons] at ih
    rw [List.map_cons, List.map_cons, String.intercalate_cons_cons, String.toList_append, ih,
      String.toList_append, List.append_assoc, spell_cons, spell_cons]
    rfl

theorem mem_separated (h : piece ∈ separated pairs) :
    piece = (.whitespace, [' ']) ∨ ∃ pair ∈ pairs, piece = (pair.1, pair.2.toList) := by
  fun_induction separated pairs with
  | case1 => cases h
  | case2 kind lexeme => exact .inr ⟨_, List.mem_cons_self, List.mem_singleton.1 h⟩
  | case3 kind lexeme pair pairs ih =>
    rcases List.mem_cons.1 h with rfl | h
    · exact .inr ⟨_, List.mem_cons_self, rfl⟩
    rcases List.mem_cons.1 h with rfl | h
    · exact .inl rfl
    · exact (ih h).imp_right fun ⟨other, hmem, hpiece⟩ =>
        ⟨other, List.mem_cons_of_mem _ hmem, hpiece⟩

theorem not_fuses (h : piece.1 = .whitespace ↔ next.1 ≠ .whitespace) : ¬ Fuses piece next := by
  rintro (⟨hpiece, hnext⟩ | ⟨hpiece, hnext, _⟩)
  · exact h.1 hpiece hnext
  · have hblank := h.2 (by rw [hnext]; decide)
    rw [hpiece] at hblank
    cases hblank

theorem isChain_separated (h : ∀ pair ∈ pairs, pair.1 ≠ .whitespace) :
    (separated pairs).IsChain fun a b => ¬ Fuses a b := by
  fun_induction separated pairs with
  | case1 => exact .nil
  | case2 kind lexeme => exact .singleton _
  | case3 kind lexeme pair pairs ih =>
    obtain ⟨hkind, h⟩ := List.forall_mem_cons.1 h
    have hpair := (List.forall_mem_cons.1 h).1
    refine List.isChain_cons_cons.2 ⟨not_fuses (by simpa using hkind), ?_⟩
    -- After the blank comes the lexeme of the next pair, which is no blank.
    refine List.isChain_cons.2 ⟨fun next hnext => not_fuses ?_, ih h⟩
    have hfirst : next = (pair.1, pair.2.toList) := by
      cases pairs <;> exact (Option.some.inj hnext).symm
    simpa [hfirst] using hpair

theorem munched_separated (h : ∀ pair ∈ pairs, pair.1 ≠ .whitespace ∧ pair.1.Spells pair.2.toList) :
    Munched arithmeticPatterns [] (separated pairs) := by
  have hchain := isChain_separated fun pair hpair => (h pair hpair).1
  refine munched_arithmetic_iff.2 ⟨fun piece hpiece => ?_, hchain⟩
  rcases mem_separated hpiece with rfl | ⟨pair, hpair, rfl⟩
  · exact ⟨by decide, List.forall_mem_singleton.2 (by decide)⟩
  · exact (h pair hpair).2

theorem not_mem_spell_separated
    (h : ∀ pair ∈ pairs, pair.1 ≠ .whitespace ∧ pair.1.Spells pair.2.toList) :
    '\n' ∉ spell (separated pairs) := by
  intro hmem
  obtain ⟨piece, hpiece, hfeed⟩ := List.mem_flatMap.1 hmem
  rcases mem_separated hpiece with rfl | ⟨pair, hpair, rfl⟩
  · exact absurd hfeed (by decide)
  · obtain ⟨hkind, hspells⟩ := h pair hpair
    exact hspells.no_blank hkind '\n' hfeed (by decide)

/-- On one line the tokens that are not blanks are laid out one byte apart. -/
theorem place_separated {index : LineIndex} (hline : ∀ o, index.position o = ⟨0, o⟩)
    (h : ∀ pair ∈ pairs, pair.1 ≠ .whitespace) (offset : Nat) :
    (place index offset (separated pairs)).filter (fun t => t.kind ≠ .whitespace) =
      Tokens.layOutFrom offset pairs := by
  have hblank : Text.byteLength [' '] = 1 := rfl
  fun_induction separated pairs generalizing offset with
  | case1 => rfl
  | case2 kind lexeme =>
    have hkind := h _ List.mem_cons_self
    simp [place, Tokens.layOutFrom, hline, Text.byteLength_toList, hkind]
  | case3 kind lexeme pair pairs ih =>
    obtain ⟨hkind, h⟩ := List.forall_mem_cons.1 h
    rw [Tokens.layOutFrom, ← ih h, place, place, Text.byteLength_toList, hblank]
    simp [hline, hkind]

/-- Lexemes of their kinds with a blank between each two have the tokens that are laid out by hand,
with the same spans and positions. -/
theorem lex_joined (pairs : List (TokenKind × String))
    (h : ∀ pair ∈ pairs, pair.1 ≠ .whitespace ∧ pair.1.Spells pair.2.toList) :
    lex (" ".intercalate (pairs.map Prod.snd)) = .ok (Tokens.layOut pairs) := by
  have htext := toList_intercalate_blank pairs
  rw [lex_of_munched htext (munched_separated h), LineIndex.ofText, htext]
  refine congrArg Except.ok (place_separated (fun o => ?_) (fun pair hpair => (h pair hpair).1) 0)
  exact Text.position_of_not_mem (not_mem_spell_separated h) o

theorem lex_joined_of_product :
    lex "( 1.5 * .25 )" = .ok [⟨.lparen, "(", ⟨0, 1⟩, ⟨0, 0⟩⟩, ⟨.num, "1.5", ⟨2, 5⟩, ⟨0, 2⟩⟩,
      ⟨.times, "*", ⟨6, 7⟩, ⟨0, 6⟩⟩, ⟨.num, ".25", ⟨8, 11⟩, ⟨0, 8⟩⟩,
      ⟨.rparen, ")", ⟨12, 13⟩, ⟨0, 12⟩⟩] := by
  let pairs : List (TokenKind × String) :=
    [(.lparen, "("), (.num, "1.5"), (.times, "*"), (.num, ".25"), (.rparen, ")")]
  have hmixed : IsNumber ['1', '.', '5'] := ⟨['1'], ['5'], rfl, by simp, by simp, by simp⟩
  have hfraction : IsNumber ['.', '2', '5'] := ⟨[], ['2', '5'], rfl, by simp, by simp, by simp⟩
  have hspells : ∀ pair ∈ pairs, pair.1 ≠ .whitespace ∧ pair.1.Spells pair.2.toList := by
    simp [pairs, TokenKind.Spells, hmixed, hfraction]
  exact lex_joined pairs hspells

end Reckoner.Lexer
