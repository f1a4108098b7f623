import Reckoner.Proofs.Lexer.Scan

/-! The outcome of a pass from the pieces of its text. Where maximal munch cuts pieces and leaves a
rest that no pattern accepts a prefix of, the pass finds the tokens of these pieces, one after the
other, and fails at the first character of the rest if there is one. -/

namespace Reckoner.Lexer

variable {κ : Type} {patterns : List (Pattern κ)}

/-- The tokens of pieces that follow one another from `offset` on. -/
def place (index : LineIndex) (offset : Nat) : List (κ × List Char) → List (Token κ)
  | [] => []
  | (kind, word) :: pieces =>
    let stop := offset + Text.byteLength word
    ⟨kind, String.ofList word, ⟨offset, stop⟩, index.position offset⟩ :: place index stop pieces

/-- The failure of a pass that ends at `offset` before a rest; none if nothing is left. -/
def failureAt (index : LineIndex) (offset : Nat) : List Char → Option LexError
  | [] => none
  | c :: _ => some ⟨c, offset, index.position offset⟩

theorem map_piece_place (index : LineIndex) (offset : Nat) (pieces : List (κ × List Char)) :
    (place index offset pieces).map Token.piece = pieces := by
  induction pieces generalizing offset with
  | nil => rfl
  | cons piece pieces ih => rw [place, List.map_cons, ih, Token.piece_mk]

theorem take_place (index : LineIndex) (offset : Nat) (pieces : List (κ × List Char)) (k : Nat) :
    (place index offset pieces).take k = place index offset (pieces.take k) := by
  induction pieces generalizing offset k with
  | nil => simp [place]
  | cons piece pieces ih =>
    cases k with
    | zero => rfl
    | succ k => rw [place, List.take_succ_cons, ih, List.take_succ_cons, place]

theorem drop_place (index : LineIndex) (offset : Nat) (pieces : List (κ × List Char)) (k : Nat) :
    (place index offset pieces).drop k =
      place index (offset + Text.byteLength (spell (pieces.take k))) (pieces.drop k) := by
  induction pieces generalizing offset k with
  | nil => simp [place]
  | cons piece pieces ih =>
    cases k with
    | zero => rfl
    | succ k =>
      rw [place, List.drop_succ_cons, ih, List.take_succ_cons, spell_cons,
        Text.byteLength_append, List.drop_succ_cons, Nat.add_assoc]

theorem stop_of_mem_place {index : LineIndex} {offset : Nat} {pieces : List (κ × List Char)}
    {t : Token κ} (h : t ∈ place index offset pieces) :
    t.span.stop = t.span.start + Text.byteLength t.piece.2 := by
  induction pieces generalizing offset with
  | nil => cases h
  | cons piece pieces ih =>
    rcases List.mem_cons.1 h with rfl | h
    · rw [Token.piece_mk]
    · exact ih h

/-- A token among others begins after the words of the tokens before it. -/
theorem place_eq_append_cons {index : LineIndex} {offset : Nat} {pieces : List (κ × List Char)}
    {before after : List (Token κ)} {t : Token κ}
    (h : place index offset pieces = before ++ t :: after) :
    pieces = before.map Token.piece ++ t.piece :: after.map Token.piece ∧
      t.span.start = offset + Text.byteLength (spell (before.map Token.piece)) ∧
      t.position = index.position t.span.start := by
  induction before generalizing offset pieces with
  | nil =>
    cases pieces with
    | nil => cases h
    | cons piece pieces =>
      obtain ⟨rfl, rfl⟩ := List.cons.inj h
      simp [map_piece_place, Text.byteLength]
  | cons u before ih =>
    cases pieces with
    | nil => cases h
    | cons piece pieces =>
      obtain ⟨rfl, htail⟩ := List.cons.inj h
      obtain ⟨rfl, hstart, hposition⟩ := ih htail
      refine ⟨by simp, ?_, hposition⟩
      rw [hstart, List.map_cons, Token.piece_mk, spell_cons, Text.byteLength_append, Nat.add_assoc]

/-- The pattern that accepts the longest prefix wins the attempt. -/
theorem winner_of_longest {cs word : List Char} {p : Pattern κ} (hlongest : Longest patterns cs word)
    (hfirst : First patterns word p) :
    ∃ m, winner (attempt patterns cs) = some m ∧ cs.take m.length = word ∧
      m.pattern.reset = p.reset := by
  cases hw : winner (attempt patterns cs) with
  | none => exact absurd hlongest (winner_attempt_eq_none hw).not_longest
  | some m =>
    obtain ⟨hlongest', q, hfirst', hpattern⟩ := winner_attempt_eq_some hw
    have hword : cs.take m.length = word := hlongest'.unique hlongest
    rw [hword] at hfirst'
    exact ⟨m, rfl, hword, hfirst'.unique hfirst ▸ hpattern⟩

theorem scan_of_stuck {rest : List Char} (hs : Stuck patterns rest) (index : LineIndex)
    (offset : Nat) :
    (scan index patterns offset rest).found = [] ∧
      (scan index patterns offset rest).failure = failureAt index offset rest := by
  cases rest with
  | nil => simp only [scan, failureAt, and_self]
  | cons c rest =>
    cases hw : winner (attempt patterns (c :: rest)) with
    | none => exact scan_of_none hw index offset
    | some m => exact absurd (winner_attempt_eq_some hw).1 hs.not_longest

/-- The pass finds the tokens of the pieces, and fails at what they leave. -/
theorem scan_of_munched {pieces : List (κ × List Char)} {rest : List Char}
    (h : Munched patterns rest pieces) (hs : Stuck patterns rest) (index : LineIndex)
    (offset : Nat) :
    let s := scan index patterns offset (spell pieces ++ rest)
    s.found.map Prod.fst = place index offset pieces ∧
      s.failure = failureAt index (offset + Text.byteLength (spell pieces)) rest := by
  -- The winner of each attempt is the next piece, and the pass goes on with the pieces after it.
  induction h generalizing offset with
  | nil =>
    obtain ⟨hfound, hfailure⟩ := scan_of_stuck hs index offset
    exact ⟨by simp [hfound, place], hfailure⟩
  | @cons p word pieces hlongest hfirst _ ih =>
    obtain ⟨m, hw, hword, hpattern⟩ := winner_of_longest hlongest hfirst
    have hrest : (word ++ (spell pieces ++ rest)).drop m.length = spell pieces ++ rest := by
      have hwhole := List.take_append_drop m.length (word ++ (spell pieces ++ rest))
      rw [hword] at hwhole
      exact List.append_cancel_left hwhole
    have hkind : m.pattern.kind = p.kind := show m.pattern.reset.kind = p.reset.kind by rw [hpattern]
    obtain ⟨c, cs, hcs⟩ : ∃ c cs, word ++ (spell pieces ++ rest) = c :: cs :=
      List.exists_cons_of_ne_nil (List.append_ne_nil_of_left_ne_nil hlongest.ne_nil _)
    rw [hcs] at hw hword hrest
    obtain ⟨hfound, hfailure⟩ := scan_of_some hw index offset
    rw [hword, hrest] at hfound hfailure
    obtain ⟨ihfound, ihfailure⟩ := ih (offset + Text.byteLength word)
    simp only [spell_cons, List.append_assoc, hcs, hfound, hfailure, List.map_cons, ihfound,
      ihfailure, place, hkind, Text.byteLength_append, Nat.add_assoc, and_self]

/-- Maximal munch cuts every text into pieces and a rest. -/
theorem exists_munched (patterns : List (Pattern κ)) (cs : List Char) :
    ∃ pieces rest, cs = spell pieces ++ rest ∧ Munched patterns rest pieces ∧
      Stuck patterns rest := by
  obtain ⟨rest, htext, hmunched, hstuck, _⟩ := munched_scan patterns ⟨[]⟩ 0 cs
  exact ⟨_, rest, htext, hmunched, hstuck⟩

variable {lexer : Lexer κ} {text : String} {pieces : List (κ × List Char)} {rest : List Char}

theorem scanText_of_munched (htext : text.toList = spell pieces ++ rest)
    (h : Munched lexer.patterns rest pieces) (hs : Stuck lexer.patterns rest) :
    (lexer.scanText text).found.map Prod.fst = place (.ofText text) 0 pieces ∧
      (lexer.scanText text).failure =
        failureAt (.ofText text) (Text.byteLength (spell pieces)) rest := by
  have hscan := scan_of_munched h hs (.ofText text) 0
  rwa [← htext, Nat.zero_add] at hscan

theorem tokenizeAll_of_munched (htext : text.toList = spell pieces)
    (h : Munched lexer.patterns [] pieces) :
    (lexer.tokenizeAll text).2 = .ok (place (.ofText text) 0 pieces) := by
  rw [← List.append_nil (spell pieces)] at htext
  obtain ⟨hfound, hfailure⟩ := scanText_of_munched htext h stuck_nil
  exact Scan.allTokens_eq_ok.2 ⟨hfailure, hfound⟩

theorem tokenizeAll_of_stuck {c : Char} (htext : text.toList = spell pieces ++ c :: rest)
    (h : Munched lexer.patterns (c :: rest) pieces) (hs : Stuck lexer.patterns (c :: rest)) :
    (lexer.tokenizeAll text).2 = .error ⟨c, Text.byteLength (spell pieces),
      LineIndex.position (.ofText text) (Text.byteLength (spell pieces))⟩ :=
  Scan.allTokens_eq_error.2 (scanText_of_munched htext h hs).2

theorem tokenizeAll_eq_ok {ts : List (Token κ)} :
    (lexer.tokenizeAll text).2 = .ok ts ↔ ∃ pieces, text.toList = spell pieces ∧
      Munched lexer.patterns [] pieces ∧ ts = place (.ofText text) 0 pieces := by
  constructor
  · intro h
    obtain ⟨pieces, rest, htext, hmunched, hstuck⟩ := exists_munched lexer.patterns text.toList
    cases rest with
    | nil =>
      rw [List.append_nil] at htext
      rw [tokenizeAll_of_munched htext hmunched] at h
      exact ⟨pieces, htext, hmunched, (Except.ok.inj h).symm⟩
    | cons c rest =>
      rw [tokenizeAll_of_stuck htext hmunched hstuck] at h
      cases h
  · rintro ⟨pieces, htext, hmunched, rfl⟩
    exact tokenizeAll_of_munched htext hmunched

/-- A text has tokens with and without the ignorable ones, or neither. -/
theorem tokenize_succeeds_iff :
    (∃ ts, (lexer.tokenize text).2 = .ok ts) ↔ ∃ ts, (lexer.tokenizeAll text).2 = .ok ts := by
  show (∃ ts, (lexer.scanText text).tokens = .ok ts) ↔ ∃ ts, (lexer.scanText text).allTokens = .ok ts
  unfold Scan.tokens Scan.allTokens
  split <;> simp

end Reckoner.Lexer
