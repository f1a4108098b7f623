import Mathlib.Data.List.Chain
import Reckoner.Proofs.Lexer.Languages
import Reckoner.Proofs.Lexer.Outcome

/-! Maximal munch with the patterns of arithmetic. A lexeme is the longest unless the next character
extends it, and it has one kind only. So the pieces of a text are any lexemes one after the other,
as long as no two neighbours fuse: blanks with blanks, and a number with digits after it. -/

namespace Reckoner.Lexer

variable {k : TokenKind} {word rest : List Char} {p : Pattern TokenKind}
  {piece next : TokenKind × List Char} {pieces : List (TokenKind × List Char)}

theorem exists_pattern (k : TokenKind) : ∃ p ∈ arithmeticPatterns, p.kind = k := by
  cases k <;> simp [arithmeticPatterns]

theorem accepts_iff_spells (hp : p ∈ arithmeticPatterns) (hne : word ≠ []) :
    p.automaton.Accepts word ↔ p.kind.Spells word := by
  simp only [arithmeticPatterns, List.mem_cons, List.not_mem_nil, or_false] at hp
  rcases hp with rfl | rfl | rfl | rfl | rfl | rfl | rfl | rfl
  · exact Automaton.accepts_number
  iterate 6 exact Automaton.accepts_single _
  · exact Automaton.accepts_blanks.trans (and_iff_right hne).symm

theorem recognizes_iff (hne : word ≠ []) :
    Recognizes arithmeticPatterns word ↔ ∃ k : TokenKind, k.Spells word := by
  constructor
  · rintro ⟨p, hp, hacc⟩
    exact ⟨p.kind, (accepts_iff_spells hp hne).1 hacc⟩
  · rintro ⟨k, h⟩
    obtain ⟨p, hp, rfl⟩ := exists_pattern k
    exact ⟨p, hp, (accepts_iff_spells hp hne).2 h⟩

theorem First.spells (h : First arithmeticPatterns word p) (hne : word ≠ []) :
    p.kind.Spells word := by
  obtain ⟨i, hi, hacc, _⟩ := h
  exact (accepts_iff_spells (List.mem_of_getElem? hi) hne).1 hacc

/-- The first pattern that accepts a lexeme is the one of its kind. -/
theorem exists_first (h : k.Spells word) : ∃ p, First arithmeticPatterns word p ∧ p.kind = k := by
  obtain ⟨p, hfirst⟩ := ((recognizes_iff h.ne_nil).2 ⟨k, h⟩).exists_first
  exact ⟨p, hfirst, (hfirst.spells h.ne_nil).unique h⟩

/-- A lexeme is the longest prefix exactly if the character after it does not extend it. -/
theorem longest_iff (h : k.Spells word) :
    Longest arithmeticPatterns (word ++ rest) word ↔ ∀ c ∈ rest.head?, ¬ k.Extends c := by
  constructor
  · intro hlongest c hc hextends
    obtain ⟨rest, rfl⟩ := List.head?_eq_some_iff.1 hc
    have hspells : k.Spells (word ++ [c]) := h.append_iff.2 (by simpa using hextends)
    have hbegins : word ++ [c] <+: word ++ c :: rest := by simp
    have hle := hlongest.longest _ hbegins ((recognizes_iff hspells.ne_nil).2 ⟨k, hspells⟩)
    rw [List.length_append, List.length_singleton] at hle
    omega
  · intro hstops
    refine ⟨h.ne_nil, List.prefix_append _ _, (recognizes_iff h.ne_nil).2 ⟨k, h⟩, ?_⟩
    intro other hbegins hrec
    refine Nat.le_of_not_lt fun hlt => ?_
    -- A longer lexeme has the same kind, so its next character extends the shorter one.
    obtain ⟨more, rfl⟩ := List.prefix_of_prefix_length_le (List.prefix_append word rest) hbegins
      (Nat.le_of_lt hlt)
    obtain ⟨l, hl⟩ := (recognizes_iff (List.append_ne_nil_of_left_ne_nil h.ne_nil _)).1 hrec
    obtain rfl := h.kind_eq hl
    obtain ⟨tail, htail⟩ := (List.prefix_append_right_inj word).1 hbegins
    cases more with
    | nil => simp at hlt
    | cons c more =>
      have hextends : k.Extends c := h.append_iff.1 hl c List.mem_cons_self
      exact hstops c (by rw [← htail]; rfl) hextends

theorem munched_cons_iff :
    Munched arithmeticPatterns rest ((k, word) :: pieces) ↔
      k.Spells word ∧ (∀ c ∈ (spell pieces ++ rest).head?, ¬ k.Extends c) ∧
        Munched arithmeticPatterns rest pieces := by
  constructor
  · intro h
    cases h with
    | cons hlongest hfirst h =>
      have hspells := hfirst.spells hlongest.ne_nil
      exact ⟨hspells, (longest_iff hspells).1 hlongest, h⟩
  · rintro ⟨hspells, hstops, h⟩
    obtain ⟨p, hfirst, rfl⟩ := exists_first hspells
    exact .cons ((longest_iff hspells).2 hstops) hfirst h

theorem Munched.spells (h : Munched arithmeticPatterns rest pieces) :
    ∀ piece ∈ pieces, piece.1.Spells piece.2 := by
  induction h with
  | nil => simp
  | cons hlongest hfirst _ ih => exact List.forall_mem_cons.2 ⟨hfirst.spells hlongest.ne_nil, ih⟩

/-- The neighbours would make one lexeme, or part of one: blanks before blanks, or a number before
one that begins with a digit. -/
def Fuses (piece next : TokenKind × List Char) : Prop :=
  piece.1 = .whitespace ∧ next.1 = .whitespace ∨
    piece.1 = .num ∧ next.1 = .num ∧ ∃ c ∈ next.2.head?, c.isDigit

theorem fuses_iff (h : next.1.Spells next.2) :
    Fuses piece next ↔ ∃ c ∈ next.2.head?, piece.1.Extends c := by
  obtain ⟨kind, word⟩ := next
  obtain ⟨c, word, rfl⟩ := List.exists_cons_of_ne_nil h.ne_nil
  have hkind : piece.1.Extends c → kind = piece.1 := fun hextends =>
    Option.some.inj (h.first.symm.trans hextends.first)
  constructor
  · rintro (⟨hpiece, rfl⟩ | ⟨hpiece, _, hdigit⟩)
    · refine ⟨c, rfl, ?_⟩
      rw [hpiece]
      exact h.2 c List.mem_cons_self
    · rw [hpiece]
      exact hdigit
  · rintro ⟨d, hd, hextends⟩
    obtain rfl : c = d := Option.some.inj hd
    obtain rfl := hkind hextends
    cases hpiece : piece.1 with
    | num => exact .inr ⟨hpiece, rfl, c, rfl, by rwa [hpiece] at hextends⟩
    | whitespace => exact .inl ⟨hpiece, rfl⟩
    | _ => rw [hpiece] at hextends; exact hextends.elim

theorem fuses_next_iff (hspells : ∀ piece ∈ pieces, piece.1.Spells piece.2) :
    (∀ next ∈ pieces.head?, ¬ Fuses piece next) ↔
      ∀ c ∈ (spell pieces).head?, ¬ piece.1.Extends c := by
  cases pieces with
  | nil => simp
  | cons next pieces =>
    have hnext := hspells next List.mem_cons_self
    have hhead : (spell (next :: pieces)).head? = next.2.head? := by
      obtain ⟨c, word, hword⟩ := List.exists_cons_of_ne_nil hnext.ne_nil
      rw [spell_cons, hword]
      rfl
    rw [hhead]
    simp [fuses_iff hnext]

theorem munched_arithmetic_iff :
    Munched arithmeticPatterns [] pieces ↔
      (∀ piece ∈ pieces, piece.1.Spells piece.2) ∧ pieces.IsChain fun a b => ¬ Fuses a b := by
  induction pieces with
  | nil => simpa using Munched.nil
  | cons piece pieces ih =>
    rw [munched_cons_iff, ih, List.forall_mem_cons, List.isChain_cons, List.append_nil]
    constructor
    · rintro ⟨hword, hstops, hspells, hchain⟩
      exact ⟨⟨hword, hspells⟩, (fuses_next_iff hspells).2 hstops, hchain⟩
    · rintro ⟨⟨hword, hspells⟩, hstops, hchain⟩
      exact ⟨hword, (fuses_next_iff hspells).1 hstops, hspells, hchain⟩

/-- A text has exactly those tokens whose lexemes it is made of, each a lexeme of its kind, and no
two neighbours such that the first would take in characters of the second. -/
theorem lexAll_undoes_concatenation (text : String) (pieces : List (TokenKind × List Char)) :
    (∃ ts, lexAll text = .ok ts ∧ ts.map Token.piece = pieces) ↔
      text.toList = spell pieces ∧ (∀ piece ∈ pieces, piece.1.Spells piece.2) ∧
        pieces.IsChain fun a b => ¬ Fuses a b := by
  rw [← munched_arithmetic_iff]
  constructor
  · rintro ⟨ts, hts, rfl⟩
    obtain ⟨pieces, htext, hmunched, rfl⟩ := tokenizeAll_eq_ok.1 hts
    rw [map_piece_place]
    exact ⟨htext, hmunched⟩
  · rintro ⟨htext, hmunched⟩
    exact ⟨_, tokenizeAll_of_munched htext hmunched, map_piece_place _ _ _⟩

end Reckoner.Lexer
