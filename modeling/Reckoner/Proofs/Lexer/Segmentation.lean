import Reckoner.Proofs.Lexer.Arithmetic

/-! Maximal munch loses no arithmetic text. A lexeme that it finds may be longer than one in another
cut of the text, but then it takes in only digits after a number, or blanks after a blank. A text
that can be cut can still be cut without a digit or a blank at its beginning, so the rest can be. -/

namespace Reckoner

/-- A number, an operator or a parenthesis, or one blank. -/
def Segment (word : List Char) : Prop :=
  IsNumber word ∨ (∃ c ∈ ['+', '-', '*', '/', '(', ')'], word = [c]) ∨
    ∃ c ∈ [' ', '\n', '\r', '\t'], word = [c]

/-- The characters can be cut into segments, in one way at least. -/
def Segmentable (cs : List Char) : Prop :=
  ∃ words : List (List Char), words.flatten = cs ∧ ∀ word ∈ words, Segment word

variable {k : TokenKind} {cs ds more rest word : List Char}

theorem Segment.spells (h : Segment word) : ∃ k : TokenKind, k.Spells word := by
  rcases h with h | ⟨c, hc, rfl⟩ | ⟨c, hc, rfl⟩
  · exact ⟨.num, h⟩
  · simp only [List.mem_cons, List.not_mem_nil, or_false] at hc
    rcases hc with rfl | rfl | rfl | rfl | rfl | rfl
    · exact ⟨.plus, rfl⟩
    · exact ⟨.minus, rfl⟩
    · exact ⟨.times, rfl⟩
    · exact ⟨.div, rfl⟩
    · exact ⟨.lparen, rfl⟩
    · exact ⟨.rparen, rfl⟩
  · exact ⟨.whitespace, List.cons_ne_nil c [], by simpa [IsBlank] using hc⟩

namespace Segmentable

theorem nil : Segmentable [] := ⟨[], rfl, by simp⟩

theorem append (hc : Segmentable cs) (hd : Segmentable ds) : Segmentable (cs ++ ds) := by
  obtain ⟨words, rfl, hwords⟩ := hc
  obtain ⟨words', rfl, hwords'⟩ := hd
  refine ⟨words ++ words', List.flatten_append, fun word h => ?_⟩
  exact (List.mem_append.1 h).elim (hwords word) (hwords' word)

theorem of_segment (h : Segment word) : Segmentable word := ⟨[word], by simp, by simpa using h⟩

/-- Blanks are cut one by one. -/
theorem of_spells (h : k.Spells word) : Segmentable word := by
  cases k with
  | num => exact of_segment (.inl h)
  | whitespace =>
    have htext : (word.map fun c => [c]).flatten = word := by
      rw [← List.flatMap_def, List.flatMap_singleton']
    refine ⟨_, htext, fun segment hsegment => ?_⟩
    obtain ⟨c, hc, rfl⟩ := List.mem_map.1 hsegment
    exact .inr (.inr ⟨c, h.2 c hc, rfl⟩)
  | _ => exact of_segment (.inr (.inl ⟨_, by simp, h⟩))

/-- Without a digit or a blank at the beginning the characters can still be cut: a number that loses
a digit is a number, because a digit before the point is not needed. -/
theorem of_cons {c : Char} (h : Segmentable (c :: cs)) (hc : k.Extends c) : Segmentable cs := by
  obtain ⟨words, htext, hwords⟩ := h
  cases words with
  | nil => simp at htext
  | cons word words =>
    obtain ⟨hword, hothers⟩ := List.forall_mem_cons.1 hwords
    obtain ⟨l, hl⟩ := hword.spells
    obtain ⟨d, word, rfl⟩ := List.exists_cons_of_ne_nil hl.ne_nil
    rw [List.flatten_cons, List.cons_append] at htext
    obtain ⟨rfl, rfl⟩ := List.cons.inj htext
    have hsingle : ∀ e, d :: word = [e] → Segmentable (word ++ words.flatten) := by
      intro e he
      obtain ⟨_, rfl⟩ := List.cons.inj he
      exact ⟨words, rfl, hothers⟩
    rcases hword with hnumber | ⟨e, _, he⟩ | ⟨e, _, he⟩
    · rcases isNumber_cons.1 hnumber with ⟨_, hnumber⟩ | ⟨rfl, _⟩
      · exact ⟨word :: words, rfl, List.forall_mem_cons.2 ⟨.inl hnumber, hothers⟩⟩
      · exact absurd hc TokenKind.not_extends_point
    · exact hsingle e he
    · exact hsingle e he

theorem of_append (h : Segmentable (more ++ cs)) (hmore : ∀ c ∈ more, k.Extends c) :
    Segmentable cs := by
  induction more with
  | nil => exact h
  | cons c more ih =>
    obtain ⟨hc, hmore⟩ := List.forall_mem_cons.1 hmore
    exact ih (of_cons h hc) hmore

end Segmentable

namespace Lexer

variable {pieces : List (TokenKind × List Char)}

/-- The rest after the longest lexeme can be cut if the whole can: the lexeme goes on after the first
segment only with characters that extend its kind. -/
theorem Longest.segmentable_rest (h : Longest arithmeticPatterns (word ++ rest) word)
    (hs : Segmentable (word ++ rest)) : Segmentable rest := by
  obtain ⟨words, htext, hwords⟩ := hs
  cases words with
  | nil => exact absurd (List.append_eq_nil_iff.1 htext.symm).1 h.ne_nil
  | cons first words =>
    obtain ⟨hfirst, hothers⟩ := List.forall_mem_cons.1 hwords
    obtain ⟨l, hl⟩ := hfirst.spells
    rw [List.flatten_cons] at htext
    have hbegins : first <+: word ++ rest := ⟨words.flatten, htext⟩
    have hle := h.longest first hbegins ((recognizes_iff hl.ne_nil).2 ⟨l, hl⟩)
    obtain ⟨more, rfl⟩ := List.prefix_of_prefix_length_le hbegins (List.prefix_append word rest) hle
    obtain ⟨k, hk⟩ := (recognizes_iff h.ne_nil).1 h.recognized
    obtain rfl := hl.kind_eq hk
    have hrest : words.flatten = more ++ rest :=
      List.append_cancel_left (htext.trans (List.append_assoc first more rest))
    exact Segmentable.of_append ⟨words, hrest, hothers⟩ (hl.append_iff.1 hk)

theorem Munched.segmentable_rest (h : Munched arithmeticPatterns rest pieces)
    (hs : Segmentable (spell pieces ++ rest)) : Segmentable rest := by
  induction h with
  | nil => exact hs
  | cons hlongest _ _ ih =>
    rw [spell_cons, List.append_assoc] at hs
    exact ih (hlongest.segmentable_rest hs)

theorem Stuck.eq_nil (h : Stuck arithmeticPatterns rest) (hs : Segmentable rest) : rest = [] := by
  obtain ⟨words, rfl, hwords⟩ := hs
  cases words with
  | nil => rfl
  | cons first words =>
    obtain ⟨k, hk⟩ := (hwords first List.mem_cons_self).spells
    exact absurd ((recognizes_iff hk.ne_nil).2 ⟨k, hk⟩) (h first hk.ne_nil (List.prefix_append _ _))

theorem segmentable_spell (h : ∀ piece ∈ pieces, piece.1.Spells piece.2) :
    Segmentable (spell pieces) := by
  induction pieces with
  | nil => exact .nil
  | cons piece pieces ih =>
    obtain ⟨hpiece, hpieces⟩ := List.forall_mem_cons.1 h
    exact (Segmentable.of_spells hpiece).append (ih hpieces)

theorem lexAll_succeeds_iff (text : String) :
    (∃ ts, lexAll text = .ok ts) ↔ Segmentable text.toList := by
  constructor
  · rintro ⟨ts, hts⟩
    obtain ⟨pieces, htext, hmunched, _⟩ := tokenizeAll_eq_ok.1 hts
    rw [htext]
    exact segmentable_spell (munched_arithmetic_iff.1 hmunched).1
  · intro hs
    obtain ⟨pieces, rest, htext, hmunched, hstuck⟩ := exists_munched arithmeticPatterns text.toList
    rw [htext] at hs
    obtain rfl := hstuck.eq_nil (hmunched.segmentable_rest hs)
    exact ⟨_, tokenizeAll_of_munched (htext.trans (List.append_nil _)) hmunched⟩

/-- A text has tokens, with or without blanks, exactly if it can be cut into numbers, operators,
parentheses and single blanks in some way. -/
theorem lex_loses_no_text (text : String) :
    ((∃ ts, lex text = .ok ts) ↔ Segmentable text.toList) ∧
      ((∃ ts, lexAll text = .ok ts) ↔ Segmentable text.toList) :=
  ⟨tokenize_succeeds_iff.trans (lexAll_succeeds_iff text), lexAll_succeeds_iff text⟩

end Lexer

end Reckoner
