import Reckoner.Proofs.Lexer.Arithmetic
import Reckoner.Proofs.Lexer.Ignorable

/-! The tokens of arithmetic without blanks are those of all tokens that are not blanks, because only
the blanks' pattern is ignorable, and it has the one kind of its own. -/

namespace Reckoner.Lexer

/-- The pieces that are not blanks. -/
def significant (pieces : List (TokenKind × List Char)) : List (TokenKind × List Char) :=
  pieces.filter fun piece => piece.1 ≠ .whitespace

theorem ignorable_iff {p : Pattern TokenKind} (hp : p ∈ arithmeticPatterns) :
    p.ignorable = true ↔ p.kind = .whitespace := by
  simp only [arithmeticPatterns, List.mem_cons, List.not_mem_nil, or_false] at hp
  rcases hp with rfl | rfl | rfl | rfl | rfl | rfl | rfl | rfl <;> simp

theorem lex_eq (text : String) :
    lex text = (lexAll text).map (List.filter fun t => t.kind ≠ .whitespace) := by
  have heq : lex text = (lexAll text).map (List.filter arithmetic.keeps) :=
    tokenize_eq arithmetic text
  rw [heq]
  cases hall : lexAll text with
  | error e => rfl
  | ok ts =>
    refine congrArg Except.ok (List.filter_congr fun t ht => ?_)
    obtain ⟨p, hp, hkind⟩ := patternOf?_of_mem hall ht
    rw [keeps_eq hp, ← hkind, Bool.eq_iff_iff]
    simp [← ignorable_iff (List.mem_of_find?_eq_some hp)]

/-- The two ways to tokenize fail with the same error. Otherwise the tokens that stay, with every
field unchanged and in their order, are those whose pattern is not ignorable: the pattern of the
lowest index that accepts the lexeme, whatever other patterns have its kind. In arithmetic these are
the tokens that are not blanks. -/
theorem tokenize_drops_ignorable {κ : Type} (lexer : Lexer κ) (text : String) :
    (∀ e, (lexer.tokenize text).2 = .error e ↔ (lexer.tokenizeAll text).2 = .error e) ∧
    (∀ ts, (lexer.tokenizeAll text).2 = .ok ts →
      (lexer.tokenize text).2 = .ok (ts.filter lexer.keeps) ∧
      ∀ t ∈ ts, ∃ p, First lexer.patterns t.lexeme.toList p ∧ p.kind = t.kind ∧
        lexer.keeps t = !p.ignorable) ∧
    lex text = (lexAll text).map (List.filter fun t => t.kind ≠ .whitespace) := by
  refine ⟨fun e => tokenize_eq_error_iff, fun ts hts => ⟨?_, fun t ht => ?_⟩, lex_eq text⟩
  · rw [tokenize_eq, hts]
    rfl
  · obtain ⟨p, hp, hkind⟩ := patternOf?_of_mem hts ht
    exact ⟨p, patternOf?_eq_some_iff.1 hp, hkind, keeps_eq hp⟩

/-- Two patterns of one kind, of which one is ignorable, and a third that the first wins over. -/
theorem tokenize_drops_ignorable_of_shared_kind :
    let lexer : Lexer Nat :=
      ⟨[⟨0, .single '+', true⟩, ⟨0, .number, false⟩, ⟨1, .single '+', false⟩]⟩
    let half : Token Nat := ⟨0, ".5", ⟨1, 3⟩, ⟨0, 1⟩⟩
    let ts := [⟨0, "+", ⟨0, 1⟩, ⟨0, 0⟩⟩, half, ⟨0, "+", ⟨3, 4⟩, ⟨0, 3⟩⟩]
    (lexer.tokenizeAll "+.5+").2 = .ok ts ∧ half ∈ ts ∧ (lexer.tokenize "+.5+").2 = .ok [half] ∧
      ∃ p, First lexer.patterns half.lexeme.toList p ∧ p.kind = 0 ∧ p.ignorable = false := by
  intro lexer half ts
  have hall : (lexer.tokenizeAll "+.5+").2 = .ok ts := by decide +kernel
  have hmem : half ∈ ts := List.mem_cons_of_mem _ List.mem_cons_self
  obtain ⟨_, hok, _⟩ := tokenize_drops_ignorable lexer "+.5+"
  obtain ⟨htokens, hpatterns⟩ := hok ts hall
  obtain ⟨p, hfirst, hkind, hkeeps⟩ := hpatterns half hmem
  have hfilter : ts.filter lexer.keeps = [half] := by decide +kernel
  have hkept : lexer.keeps half = true := by decide +kernel
  refine ⟨hall, hmem, by rw [htokens, hfilter], p, hfirst, hkind, ?_⟩
  rw [hkept] at hkeeps
  simpa using hkeeps.symm

variable {text : String} {pieces : List (TokenKind × List Char)} {ts : Tokens}

theorem lex_of_munched (htext : text.toList = spell pieces)
    (h : Munched arithmeticPatterns [] pieces) :
    lex text = .ok ((place (.ofText text) 0 pieces).filter fun t => t.kind ≠ .whitespace) := by
  have hall : lexAll text = .ok _ := tokenizeAll_of_munched htext h
  rw [lex_eq, hall]
  rfl

theorem lex_of_stuck {c : Char} {rest : List Char} (htext : text.toList = spell pieces ++ c :: rest)
    (h : Munched arithmeticPatterns (c :: rest) pieces)
    (hs : Stuck arithmeticPatterns (c :: rest)) :
    lex text = .error ⟨c, Text.byteLength (spell pieces),
      LineIndex.position (.ofText text) (Text.byteLength (spell pieces))⟩ := by
  have hall : lexAll text = .error _ := tokenizeAll_of_stuck htext h hs
  rw [lex_eq, hall]
  rfl

theorem exists_pieces_of_lex (h : lex text = .ok ts) :
    ∃ pieces, text.toList = spell pieces ∧ Munched arithmeticPatterns [] pieces ∧
      ts = (place (.ofText text) 0 pieces).filter fun t => t.kind ≠ .whitespace := by
  obtain ⟨pieces, rest, htext, hmunched, hstuck⟩ := exists_munched arithmeticPatterns text.toList
  cases rest with
  | nil =>
    rw [List.append_nil] at htext
    rw [lex_of_munched htext hmunched] at h
    exact ⟨pieces, htext, hmunched, (Except.ok.inj h).symm⟩
  | cons c rest =>
    rw [lex_of_stuck htext hmunched hstuck] at h
    cases h

theorem ne_whitespace_of_mem {t : Token TokenKind} (h : lex text = .ok ts) (ht : t ∈ ts) :
    t.kind ≠ .whitespace := by
  obtain ⟨_, _, _, rfl⟩ := exists_pieces_of_lex h
  exact of_decide_eq_true (List.mem_filter.1 ht).2

theorem exists_lexAll_of_lex (h : lex text = .ok ts) :
    ∃ all, lexAll text = .ok all ∧ ts = all.filter fun t => t.kind ≠ .whitespace := by
  rw [lex_eq] at h
  cases hall : lexAll text with
  | error err =>
    rw [hall] at h
    cases h
  | ok all =>
    rw [hall] at h
    exact ⟨all, rfl, (Except.ok.inj h).symm⟩

theorem spells_of_mem_lexAll {t : Token TokenKind} (h : lexAll text = .ok ts) (ht : t ∈ ts) :
    t.kind.Spells t.lexeme.toList := by
  obtain ⟨pieces, _, hmunched, rfl⟩ := tokenizeAll_eq_ok.1 h
  have hpiece : t.piece ∈ pieces := by
    rw [← map_piece_place (.ofText text) 0 pieces]
    exact List.mem_map_of_mem ht
  exact (munched_arithmetic_iff.1 hmunched).1 _ hpiece

end Reckoner.Lexer
