import Mathlib.Data.List.TakeWhile
import Reckoner.Proofs.Lexer.Boundary
import Reckoner.Proofs.Lexer.Significant

/-! Blanks around lexemes. Which lexemes that are not blanks a text has is a relation, `Lexes`, that can
be followed from the left: a lexeme is taken off if the next character does not extend it, and blanks
are taken off whatever follows. So blanks may be put in where a lexeme ends, and blanks may be left
out if the lexemes around them do not fuse. -/

namespace Reckoner.Lexer

variable {k : TokenKind} {c : Char} {cs word rest : List Char} {text : String}
  {pieces others before after : List (TokenKind × List Char)}

/-- Maximal munch cuts the characters into lexemes, of which `pieces` are those that are not
blanks. -/
def Lexes (cs : List Char) (pieces : List (TokenKind × List Char)) : Prop :=
  ∃ all, cs = spell all ∧ Munched arithmeticPatterns [] all ∧ significant all = pieces

theorem lexes_nil : Lexes [] [] := ⟨[], rfl, .nil, rfl⟩

theorem significant_place (index : LineIndex) (offset : Nat)
    (pieces : List (TokenKind × List Char)) :
    ((place index offset pieces).filter fun t => t.kind ≠ .whitespace).map Token.piece =
      significant pieces := by
  have hpiece : ((fun piece : TokenKind × List Char => decide (piece.1 ≠ .whitespace)) ∘ Token.piece) =
      fun t : Token TokenKind => decide (t.kind ≠ .whitespace) := rfl
  rw [significant, ← map_piece_place index offset pieces, List.filter_map, hpiece,
    map_piece_place]

/-- The tokens of a text without blanks are its lexemes that are not blanks. -/
theorem lex_eq_ok_iff :
    (∃ ts, lex text = .ok ts ∧ ts.map Token.piece = pieces) ↔ Lexes text.toList pieces := by
  constructor
  · rintro ⟨ts, hts, rfl⟩
    obtain ⟨all, htext, hmunched, rfl⟩ := exists_pieces_of_lex hts
    exact ⟨all, htext, hmunched, (significant_place _ _ _).symm⟩
  · rintro ⟨all, htext, hmunched, rfl⟩
    exact ⟨_, lex_of_munched htext hmunched, significant_place _ _ _⟩

/-- A lexeme at the beginning is the first piece if the next character does not extend it. -/
theorem Munched.uncons (h : Munched arithmeticPatterns [] pieces) (hword : k.Spells word)
    (hstops : ∀ c ∈ rest.head?, ¬ k.Extends c) (htext : word ++ rest = spell pieces) :
    ∃ others, pieces = (k, word) :: others ∧ rest = spell others ∧
      Munched arithmeticPatterns [] others := by
  cases h with
  | nil => exact absurd (List.append_eq_nil_iff.1 htext).1 hword.ne_nil
  | @cons p first others hlongest hfirst h =>
    rw [List.append_nil] at hlongest
    rw [spell_cons] at htext
    have hsame : word = first := ((longest_iff hword).2 hstops).unique (htext ▸ hlongest)
    subst hsame
    have hkind : p.kind = k := (hfirst.spells hword.ne_nil).unique hword
    rw [hkind]
    exact ⟨others, rfl, List.append_cancel_left htext, h⟩

theorem lexes_append_iff (hword : k.Spells word) (hstops : ∀ c ∈ rest.head?, ¬ k.Extends c) :
    Lexes (word ++ rest) pieces ↔
      ∃ others, pieces = significant [(k, word)] ++ others ∧ Lexes rest others := by
  have hsplit : ∀ all : List (TokenKind × List Char),
      significant ((k, word) :: all) = significant [(k, word)] ++ significant all := fun all =>
    List.filter_append [(k, word)] all
  constructor
  · rintro ⟨all, htext, hall, rfl⟩
    obtain ⟨all, rfl, rfl, hall⟩ := hall.uncons hword hstops htext
    exact ⟨_, hsplit all, all, rfl, hall, rfl⟩
  · rintro ⟨_, rfl, all, rfl, hall, rfl⟩
    refine ⟨(k, word) :: all, rfl, ?_, hsplit all⟩
    exact munched_cons_iff.2 ⟨hword, by rwa [List.append_nil], hall⟩

theorem lexes_token_iff (hword : k.Spells word) (hk : k ≠ .whitespace)
    (hstops : ∀ c ∈ rest.head?, ¬ k.Extends c) :
    Lexes (word ++ rest) pieces ↔ ∃ others, pieces = (k, word) :: others ∧ Lexes rest others := by
  have hsig : significant [(k, word)] = [(k, word)] := by simp [significant, hk]
  rw [lexes_append_iff hword hstops, hsig]
  rfl

theorem lexes_blank_iff (hc : IsBlank c) : Lexes (c :: cs) pieces ↔ Lexes cs pieces := by
  -- The blank is a lexeme with all the blanks after it.
  obtain ⟨run, rest, rfl, hrun, hrest⟩ : ∃ run rest, cs = run ++ rest ∧
      (∀ d ∈ run, IsBlank d) ∧ ∀ d ∈ rest.head?, ¬ IsBlank d := by
    refine ⟨cs.takeWhile (IsBlank ·), cs.dropWhile (IsBlank ·),
      List.takeWhile_append_dropWhile.symm, fun d hd => ?_, fun d hd => ?_⟩
    · simpa using List.mem_takeWhile_imp hd
    · have hnot := List.head?_dropWhile_not (IsBlank ·) cs
      rw [hd] at hnot
      simpa using hnot
  have hblank : ∀ {word}, word ≠ [] → (∀ d ∈ word, IsBlank d) →
      (Lexes (word ++ rest) pieces ↔ Lexes rest pieces) := fun hne hword => by
    rw [lexes_append_iff (k := .whitespace) ⟨hne, hword⟩ hrest]
    simp [significant]
  rw [← List.cons_append, hblank (List.cons_ne_nil c run) (List.forall_mem_cons.2 ⟨hc, hrun⟩)]
  cases run with
  | nil => rfl
  | cons d run => exact (hblank (List.cons_ne_nil d run) hrun).symm

theorem lexes_blanks_iff {blanks : List Char} (h : ∀ c ∈ blanks, IsBlank c) :
    Lexes (blanks ++ cs) pieces ↔ Lexes cs pieces := by
  induction blanks with
  | nil => rfl
  | cons c blanks ih =>
    obtain ⟨hc, hblanks⟩ := List.forall_mem_cons.1 h
    rw [List.cons_append, lexes_blank_iff hc, ih hblanks]

/-- Pieces keep their lexemes before another text unless its first character extends the last one. -/
theorem Munched.lexes_append (h : Munched arithmeticPatterns [] before)
    (hlast : ∀ piece ∈ before.getLast?, piece.1 ≠ .whitespace →
      ∀ c ∈ cs.head?, ¬ piece.1.Extends c)
    (hcs : Lexes cs pieces) : Lexes (spell before ++ cs) (significant before ++ pieces) := by
  induction before with
  | nil => exact hcs
  | cons piece before ih =>
    obtain ⟨kind, word⟩ := piece
    obtain ⟨hword, hstops, h⟩ := munched_cons_iff.1 h
    rw [List.append_nil] at hstops
    have hrest : Lexes (spell before ++ cs) (significant before ++ pieces) :=
      ih h (fun piece hpiece => hlast piece (by rw [List.getLast?_cons]; simp_all))
    rw [spell_cons, List.append_assoc]
    by_cases hkind : kind = .whitespace
    · subst hkind
      rw [lexes_blanks_iff hword.2]
      simpa [significant] using hrest
    · refine (lexes_token_iff hword hkind ?_).2 ⟨_, by simp [significant, hkind], hrest⟩
      cases before with
      | nil => exact hlast (kind, word) rfl hkind
      | cons next before =>
        obtain ⟨d, tail, htail⟩ := List.exists_cons_of_ne_nil (munched_cons_iff.1 h).1.ne_nil
        rw [spell_cons, htail] at hstops ⊢
        exact hstops

/-- Blanks may be put in where a lexeme ends. -/
theorem Munched.lexes_insert {blanks : List Char}
    (h : Munched arithmeticPatterns [] (before ++ after))
    (hblanks : ∀ c ∈ blanks, IsBlank c) :
    Lexes (spell before ++ (blanks ++ spell after)) (significant (before ++ after)) := by
  cases blanks with
  | nil => exact ⟨before ++ after, by simp [spell_append], h, rfl⟩
  | cons b blanks =>
    obtain ⟨hbefore, hafter⟩ := h.split
    rw [significant, List.filter_append]
    refine hbefore.lexes_append (fun piece _ hkind c hc hextends => ?_)
      ((lexes_blanks_iff hblanks).2 ⟨after, rfl, hafter, rfl⟩)
    obtain rfl : b = c := Option.some.inj hc
    have hb := TokenKind.ofFirst?_of_blank (hblanks b List.mem_cons_self)
    exact hkind (Option.some.inj (hextends.first.symm.trans hb))

/-- Blanks may be left out if the lexemes around them do not fuse. -/
theorem Munched.lexes_erase
    (h : Munched arithmeticPatterns [] (before ++ (.whitespace, word) :: after))
    (hneighbours : ∀ left ∈ before.getLast?, left.1 ≠ .whitespace →
      ∀ right ∈ after.head?, ¬ Fuses left right) :
    Lexes (spell before ++ spell after) (significant (before ++ (.whitespace, word) :: after)) := by
  obtain ⟨hbefore, hblank⟩ := h.split
  have hafter : Munched arithmeticPatterns [] after := (munched_cons_iff.1 hblank).2.2
  have hspells := (munched_arithmetic_iff.1 hafter).1
  have hsig : significant (before ++ (.whitespace, word) :: after) =
      significant before ++ significant after := by simp [significant]
  rw [hsig]
  refine hbefore.lexes_append (fun left hleft hkind => ?_) ⟨after, rfl, hafter, rfl⟩
  exact (fuses_next_iff hspells).1 (hneighbours left hleft hkind)

end Reckoner.Lexer
