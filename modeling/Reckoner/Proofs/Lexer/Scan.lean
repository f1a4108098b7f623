import Reckoner.Proofs.Lexer.Attempt

/-! The pass of a lexer over a text is maximal munch. An attempt resets every automaton before it
reads a character, so live states that an earlier attempt left behind do not show in what a pass
finds. What it finds are the pieces that maximal munch cuts, and it stops where a lexer is stuck. -/

namespace Reckoner

/-- A token as a piece of a text. -/
def Token.piece {κ : Type} (t : Token κ) : κ × List Char := (t.kind, t.lexeme.toList)

@[simp] theorem Token.piece_mk {κ : Type} (kind : κ) (word : List Char) (span : Span)
    (position : Position) :
    Token.piece ⟨kind, String.ofList word, span, position⟩ = (kind, word) := by
  rw [piece, String.toList_ofList]

namespace Lexer

variable {κ : Type} {patterns : List (Pattern κ)}

theorem winner_attempt_eq_none {cs : List Char} (h : winner (attempt patterns cs) = none) :
    Stuck patterns cs := by
  rintro word hne hbegins ⟨p, hp, hacc⟩
  have hzero := winner_eq_none h ((Runner.begin p).stepAll 0 cs)
    (by rw [attempt_eq]; exact List.mem_map_of_mem hp)
  have hle := (furthest_begin p cs).length_le hbegins hacc
  have hpos : 0 < word.length := List.length_pos_iff.2 hne
  omega

/-- The winner has the longest prefix that a pattern accepts, and the first pattern that does. -/
theorem winner_attempt_eq_some {cs : List Char} {m : Match κ}
    (h : winner (attempt patterns cs) = some m) :
    Longest patterns cs (cs.take m.length) ∧
      ∃ p, First patterns (cs.take m.length) p ∧ m.pattern.reset = p.reset := by
  obtain ⟨i, r, hi, hpattern, hlength, hle, hlt⟩ := winner_wins h
  rw [attempt_eq] at hi hle hlt
  rw [List.getElem?_map, Option.map_eq_some_iff] at hi
  obtain ⟨p, hp, rfl⟩ := hi
  have hfar := furthest_begin p cs
  rw [← hlength] at hfar
  have hacc := hfar.mem m.length_pos
  have htake : (cs.take m.length).length = m.length := List.length_take_of_le hfar.le
  refine ⟨⟨?_, List.take_prefix _ _, ⟨p, List.mem_of_getElem? hp, hacc⟩, ?_⟩, p,
    ⟨i, hp, hacc, fun j q hj hq haccq => ?_⟩, ?_⟩
  · rw [← List.length_pos_iff, htake]
    exact m.length_pos
  · rintro other hbegins ⟨q, hq, haccq⟩
    rw [htake]
    have hother := (furthest_begin q cs).length_le hbegins haccq
    exact Nat.le_trans hother (hle _ (List.mem_map_of_mem hq))
  · have hqlt := hlt j ((Runner.begin q).stepAll 0 cs) hj (by rw [List.getElem?_map, hq]; rfl)
    exact (furthest_begin q cs).beyond m.length hqlt hfar.le haccq
  · rw [hpattern, Runner.reset_pattern_stepAll]
    rfl

/-- An attempt depends on the automata, not on their live states. -/
theorem attempt_congr {patterns' : List (Pattern κ)}
    (h : patterns.map Pattern.reset = patterns'.map Pattern.reset) (cs : List Char) :
    attempt patterns cs = attempt patterns' cs := by
  have hbegin : ∀ ps : List (Pattern κ),
      ps.map Runner.begin = (ps.map Pattern.reset).map fun p => ⟨p, true, 0⟩ := by
    intro ps
    rw [List.map_map]
    rfl
  rw [attempt, attempt, hbegin, hbegin, h]

theorem reset_attempt (patterns : List (Pattern κ)) (cs : List Char) :
    ((attempt patterns cs).map Runner.pattern).map Pattern.reset = patterns.map Pattern.reset := by
  rw [attempt_eq, List.map_map, List.map_map]
  refine List.map_congr_left fun p _ => ?_
  exact Runner.reset_pattern_stepAll 0 cs

/-- What a pass finds depends on the automata, not on their live states. -/
theorem scan_congr {patterns' : List (Pattern κ)}
    (h : patterns.map Pattern.reset = patterns'.map Pattern.reset) (index : LineIndex)
    (offset : Nat) (cs : List Char) :
    (scan index patterns offset cs).found = (scan index patterns' offset cs).found ∧
      (scan index patterns offset cs).failure = (scan index patterns' offset cs).failure := by
  cases cs with
  | nil => simp only [scan, and_self]
  | cons c cs => rw [scan, scan, attempt_congr h]; exact ⟨rfl, rfl⟩

theorem scan_of_none {c : Char} {cs : List Char}
    (h : winner (attempt patterns (c :: cs)) = none) (index : LineIndex) (offset : Nat) :
    (scan index patterns offset (c :: cs)).found = [] ∧
      (scan index patterns offset (c :: cs)).failure =
        some ⟨c, offset, index.position offset⟩ := by
  rw [scan]
  simp only [h, and_self]

/-- After a lexeme the pass goes on as a pass of the same patterns over the rest. -/
theorem scan_of_some {c : Char} {cs : List Char} {m : Match κ}
    (h : winner (attempt patterns (c :: cs)) = some m) (index : LineIndex) (offset : Nat) :
    let word := (c :: cs).take m.length
    let stop := offset + Text.byteLength word
    let rest := scan index patterns stop ((c :: cs).drop m.length)
    (scan index patterns offset (c :: cs)).found =
        (⟨m.pattern.kind, String.ofList word, ⟨offset, stop⟩, index.position offset⟩,
          m.pattern.ignorable) :: rest.found ∧
      (scan index patterns offset (c :: cs)).failure = rest.failure := by
  intro word stop rest
  have hrest := scan_congr (reset_attempt patterns (c :: cs)) index stop ((c :: cs).drop m.length)
  rw [scan]
  simp only [h]
  exact ⟨congrArg _ hrest.1, hrest.2⟩

/-- The pass cuts its tokens from the text by maximal munch, and it ends where no pattern accepts
a prefix of the rest: at the end, or with a failure at the next character. -/
theorem munched_scan (patterns : List (Pattern κ)) (index : LineIndex) (offset : Nat)
    (cs : List Char) :
    let s := scan index patterns offset cs
    let pieces := s.found.map fun found => found.1.piece
    ∃ rest, cs = spell pieces ++ rest ∧ Munched patterns rest pieces ∧ Stuck patterns rest ∧
      (rest = [] ∧ s.failure = none ∨ ∃ c rest' position, rest = c :: rest' ∧
        s.failure = some ⟨c, offset + Text.byteLength (spell pieces), position⟩) := by
  -- An attempt takes at least one character, so the rest after it is shorter.
  induction h : cs.length using Nat.strongRecOn generalizing cs offset with
  | ind n ih =>
    cases cs with
    | nil =>
      refine ⟨[], ?_⟩
      rw [scan]
      exact ⟨rfl, .nil, stuck_nil, .inl ⟨rfl, rfl⟩⟩
    | cons c cs =>
      cases hw : winner (attempt patterns (c :: cs)) with
      | none =>
        obtain ⟨hfound, hfailure⟩ := scan_of_none hw index offset
        refine ⟨c :: cs, ?_⟩
        simp only [hfound, hfailure]
        exact ⟨rfl, .nil, winner_attempt_eq_none hw, .inr ⟨c, cs, _, rfl, rfl⟩⟩
      | some m =>
        obtain ⟨hfound, hfailure⟩ := scan_of_some hw index offset
        obtain ⟨hlongest, p, hfirst, hpattern⟩ := winner_attempt_eq_some hw
        have hkind : m.pattern.reset.kind = p.reset.kind := by rw [hpattern]
        have hshorter : ((c :: cs).drop m.length).length < n := by
          have hpos := m.length_pos
          rw [List.length_drop, h]
          simp only [List.length_cons] at h
          omega
        obtain ⟨rest, htext, hmunched, hstuck, hend⟩ :=
          ih _ hshorter (offset + Text.byteLength ((c :: cs).take m.length)) _ rfl
        have hwhole := List.take_append_drop m.length (c :: cs)
        rw [htext] at hwhole
        refine ⟨rest, ?_⟩
        simp only [hfound, hfailure, List.map_cons, Token.piece_mk, spell_cons, List.append_assoc,
          Text.byteLength_append, ← Nat.add_assoc]
        refine ⟨hwhole.symm, ?_, hstuck, hend⟩
        rw [show m.pattern.kind = p.kind from hkind]
        exact .cons (hwhole.symm ▸ hlongest) hfirst hmunched

namespace Scan

theorem allTokens_eq_ok {s : Scan κ} {ts : List (Token κ)} :
    s.allTokens = .ok ts ↔ s.failure = none ∧ s.found.map Prod.fst = ts := by
  unfold allTokens
  split <;> simp_all

theorem allTokens_eq_error {s : Scan κ} {e : LexError} :
    s.allTokens = .error e ↔ s.failure = some e := by
  unfold allTokens
  split <;> simp_all

end Scan

/-- A lexer returns tokens exactly if maximal munch cuts the whole text into their kinds and
lexemes. It fails exactly if maximal munch leaves a rest that no pattern accepts a prefix of; the
error has the first character of the rest and the number of bytes before it. -/
theorem tokenizeAll_is_maximal_munch (lexer : Lexer κ) (text : String) :
    (∀ pieces : List (κ × List Char),
      (∃ ts, (lexer.tokenizeAll text).2 = .ok ts ∧ ts.map Token.piece = pieces) ↔
        spell pieces = text.toList ∧ Munched lexer.patterns [] pieces) ∧
    ∀ (c : Char) (offset : Nat),
      (∃ e, (lexer.tokenizeAll text).2 = .error e ∧ e.character = c ∧ e.offset = offset) ↔
        ∃ (pieces : List (κ × List Char)) (rest : List Char),
          spell pieces ++ c :: rest = text.toList ∧ Munched lexer.patterns (c :: rest) pieces ∧
          Stuck lexer.patterns (c :: rest) ∧
          offset = (String.ofList (spell pieces)).utf8ByteSize := by
  obtain ⟨left, htext, hmunched, hstuck, hend⟩ :=
    munched_scan lexer.patterns (.ofText text) 0 text.toList
  refine ⟨fun pieces => ⟨?_, ?_⟩, fun c offset => ⟨?_, ?_⟩⟩
  · rintro ⟨ts, hts, rfl⟩
    obtain ⟨hnone, rfl⟩ := Scan.allTokens_eq_ok.1 hts
    rw [List.map_map]
    rcases hend with ⟨rfl, _⟩ | ⟨c, rest, position, _, hsome⟩
    · exact ⟨(htext.trans (List.append_nil _)).symm, hmunched⟩
    · exact absurd (hnone.symm.trans hsome) (by simp)
  · rintro ⟨hspell, hcut⟩
    obtain ⟨rfl, rfl⟩ := hcut.unique hmunched stuck_nil hstuck (by rw [← htext, ← hspell]; simp)
    rcases hend with ⟨_, hnone⟩ | ⟨c, rest, position, hnil, _⟩
    · exact ⟨_, Scan.allTokens_eq_ok.2 ⟨hnone, rfl⟩, List.map_map⟩
    · exact absurd hnil (by simp)
  · rintro ⟨e, he, rfl, rfl⟩
    have hfailure := Scan.allTokens_eq_error.1 he
    rcases hend with ⟨_, hnone⟩ | ⟨c, rest, position, rfl, hsome⟩
    · exact absurd (hnone.symm.trans hfailure) (by simp)
    · obtain rfl := Option.some.inj (hsome.symm.trans hfailure)
      refine ⟨_, rest, htext.symm, hmunched, hstuck, ?_⟩
      rw [Text.utf8ByteSize_ofList, Nat.zero_add]
  · rintro ⟨pieces, rest, hspell, hcut, hstuck', rfl⟩
    obtain ⟨rfl, rfl⟩ := hcut.unique hmunched hstuck' hstuck (by rw [← htext, hspell])
    rcases hend with ⟨hnil, _⟩ | ⟨d, rest', position, hrest, hsome⟩
    · exact absurd hnil (by simp)
    · obtain ⟨rfl, rfl⟩ := List.cons.inj hrest
      refine ⟨_, Scan.allTokens_eq_error.2 hsome, rfl, ?_⟩
      rw [Text.utf8ByteSize_ofList, Nat.zero_add]

end Lexer

end Reckoner
