import Reckoner.Proofs.Lexer.Boundary
import Reckoner.Proofs.Text.Offsets

/-! The tokens of a text tile it. Their spans follow one another from the beginning to the end, each
token is the text at its span, and its position is told by the line feeds before it; so is that of a
failure. The pass by numbers never looks out of range, so it finds the same. -/

namespace Reckoner

/-- `word` is the text at a span between two boundaries of characters, and `position` counts the line
feeds before it and the bytes after the last of them. -/
structure Occupies (text : String) (span : Span) (position : Position) (word : String) : Prop where
  nonempty : span.start < span.stop
  start_valid : String.Pos.Raw.IsValid text ⟨span.start⟩
  stop_valid : String.Pos.Raw.IsValid text ⟨span.stop⟩
  slice : Text.slice? text span.start span.stop = some word
  position_eq : ∃ before after : String, text = before ++ after ∧
    before.utf8ByteSize = span.start ∧ position = .after before.toList

/-- The spans of the tokens follow one another from the beginning of the text to its end. -/
structure Tiles {κ : Type} (text : String) (ts : List (Token κ)) : Prop where
  eq_nil_iff : ts = [] ↔ text = ""
  first : ∀ t ∈ ts.head?, t.span.start = 0
  consecutive : ts.IsChain fun t u => u.span.start = t.span.stop
  last : ∀ t ∈ ts.getLast?, t.span.stop = text.utf8ByteSize
  occupies : ∀ t ∈ ts, Occupies text t.span t.position t.lexeme

theorem Occupies.of_toList {text : String} {before word after : List Char} (hne : word ≠ [])
    (h : text.toList = before ++ word ++ after) :
    Occupies text ⟨Text.byteLength before, Text.byteLength before + Text.byteLength word⟩
      ((LineIndex.ofText text).position (Text.byteLength before)) (String.ofList word) := by
  have hcut := h.trans (List.append_assoc _ _ _)
  refine ⟨?_, Text.isValid_of_toList hcut, ?_, Text.slice?_of_toList h, ?_⟩
  · obtain ⟨c, word, rfl⟩ := List.exists_cons_of_ne_nil hne
    have hsize := c.utf8Size_pos
    simp only [Text.byteLength]
    omega
  · rw [← Text.byteLength_append]
    exact Text.isValid_of_toList h
  · refine ⟨_, _, Text.eq_append_of_toList hcut, Text.utf8ByteSize_ofList before, ?_⟩
    rw [String.toList_ofList]
    exact Text.position_eq_after hcut

namespace Lexer

variable {κ : Type} {patterns : List (Pattern κ)} {cs before rest : List Char} {text : String}
  {m : Match κ} {pieces : List (κ × List Char)}

section ByIndex

open ByIndex

theorem foldl_step_of_le {runners : List (Runner κ)} {b : Option Best}
    (h : ∀ r ∈ runners, r.longest ≤ b.elim 0 Best.length) (n : Nat) :
    (runners.zipIdx n).foldl Best.step b = b := by
  induction runners generalizing n with
  | nil => rfl
  | cons r runners ih =>
    obtain ⟨hr, hrest⟩ := List.forall_mem_cons.1 h
    rw [List.zipIdx_cons, List.foldl_cons, Best.step, dif_neg (Nat.not_lt.2 hr), ih hrest]

theorem length_foldl_step_lt {runners : List (Runner κ)} {b : Option Best} {bound : Nat}
    (hb : b.elim 0 Best.length < bound) (h : ∀ r ∈ runners, r.longest < bound) (n : Nat) :
    ((runners.zipIdx n).foldl Best.step b).elim 0 Best.length < bound := by
  induction runners generalizing b n with
  | nil => exact hb
  | cons r runners ih =>
    obtain ⟨hr, hrest⟩ := List.forall_mem_cons.1 h
    rw [List.zipIdx_cons, List.foldl_cons]
    refine ih ?_ hrest (n + 1)
    unfold Best.step
    split
    · exact hr
    · exact hb

theorem best_of_winner_eq_none {runners : List (Runner κ)} (h : winner runners = none) :
    best runners = none :=
  foldl_step_of_le (b := none) (fun r hr => Nat.le_of_eq (winner_eq_none h r hr)) 0

theorem best_of_winner_eq_some {runners : List (Runner κ)} (h : winner runners = some m) :
    ∃ number, best runners = some ⟨number, m.length, m.length_pos⟩ ∧
      (runners.map Runner.pattern)[number]? = some m.pattern := by
  obtain ⟨number, r, hr, hpattern, hlength, hle, hfirst⟩ := winner_wins h
  refine ⟨number, ?_, by rw [List.getElem?_map, hr, Option.map_some, hpattern]⟩
  -- The runners before the winner are shorter, so it replaces the best of them, and those after it
  -- are not longer.
  obtain ⟨before, after, rfl, rfl⟩ : ∃ before after, runners = before ++ r :: after ∧
      before.length = number := by
    obtain ⟨hnumber, rfl⟩ := List.getElem?_eq_some_iff.1 hr
    refine ⟨runners.take number, runners.drop (number + 1), ?_, List.length_take_of_le hnumber.le⟩
    rw [← List.drop_eq_getElem_cons hnumber, List.take_append_drop]
  have hbefore : ∀ q ∈ before, q.longest < m.length := fun q hq => by
    obtain ⟨j, hj, rfl⟩ := List.mem_iff_getElem.1 hq
    exact hfirst j _ hj (by rw [List.getElem?_append_left hj, List.getElem?_eq_getElem hj])
  have hafter : ∀ q ∈ after, q.longest ≤ m.length := fun q hq => hle q (by simp [hq])
  have hshorter := length_foldl_step_lt (b := none) m.length_pos hbefore 0
  have hstep : Best.step (before.zipIdx.foldl Best.step none) (r, before.length) =
      some ⟨before.length, m.length, m.length_pos⟩ := by
    rw [hlength] at hshorter
    simp only [Best.step, dif_pos hshorter, hlength]
  rw [best, List.zipIdx_append, List.foldl_append, List.zipIdx_cons, List.foldl_cons,
    Nat.zero_add, hstep]
  exact foldl_step_of_le hafter _

theorem stop_eq (h : text.toList = before ++ rest) :
    ((Text.charIndices 0 text.toList)[before.length]?).elim text.utf8ByteSize Prod.fst =
      Text.byteLength before := by
  rw [h, Text.getElem?_charIndices]
  cases rest with
  | nil =>
    rw [← Text.byteLength_toList, h, List.append_nil]
    rfl
  | cons c rest => rfl

/-- The pass by numbers finds what the pass over the characters finds. -/
theorem byIndex_scan_eq (patterns : List (Pattern κ)) (h : text.toList = before ++ cs) :
    ByIndex.scan text (Text.charIndices 0 text.toList) (0 :: Text.lineStarts 0 text.toList) patterns
        before.length =
      some (scan (.ofText text) patterns (Text.byteLength before) cs) := by
  -- The characters before the number and the bytes before the offset are those of `before`.
  induction hlength : cs.length using Nat.strongRecOn generalizing before cs patterns with
  | ind n ih =>
    have hchars : (Text.charIndices 0 text.toList).length = before.length + cs.length := by
      rw [h, Text.length_charIndices, List.length_append]
    cases cs with
    | nil =>
      rw [ByIndex.scan, if_neg (by simp [hchars]), scan]
      rfl
    | cons c cs =>
      have hchar : (Text.charIndices 0 text.toList)[before.length]? =
          some (Text.byteLength before, c) := by
        rw [h, Text.getElem?_charIndices]
        rfl
      have hrest : ((Text.charIndices 0 text.toList).drop before.length).map Prod.snd = c :: cs := by
        rw [h, Text.drop_charIndices, Text.map_snd_charIndices]
      rw [ByIndex.scan, if_pos (by simp [hchars]), scan]
      cases hw : winner (attempt patterns (c :: cs)) with
      | none =>
        simp only [hchar, hrest, Text.lookup?_eq, best_of_winner_eq_none hw]
        rfl
      | some m =>
        obtain ⟨number, hbest, hpattern⟩ := best_of_winner_eq_some hw
        have hle := length_le_of_winner hw
        have hpos := m.length_pos
        have hwhole : text.toList = before ++ (c :: cs).take m.length ++ (c :: cs).drop m.length := by
          rw [List.append_assoc, List.take_append_drop, h]
        have hshorter : ((c :: cs).drop m.length).length < n := by
          rw [List.length_drop]
          omega
        have hstop := stop_eq hwhole
        have hslice := Text.slice?_of_toList hwhole
        have hlater := ih _ hshorter ((attempt patterns (c :: cs)).map Runner.pattern) hwhole rfl
        rw [List.length_append, List.length_take_of_le hle, Text.byteLength_append] at hstop hlater
        simp only [hchar, hrest, Text.lookup?_eq, hbest, hpattern, hstop, Option.bind_eq_bind,
          Option.bind_some, hslice, hlater]
        rfl

end ByIndex

theorem isChain_place (index : LineIndex) (offset : Nat) (pieces : List (κ × List Char)) :
    (place index offset pieces).IsChain fun t u => u.span.start = t.span.stop := by
  induction pieces generalizing offset with
  | nil => exact .nil
  | cons piece pieces ih =>
    cases pieces with
    | nil => exact .singleton _
    | cons next pieces => exact .cons_cons rfl (ih _)

theorem occupies_of_mem_place {t : Token κ} (htext : text.toList = spell pieces ++ rest)
    (h : Munched patterns rest pieces) (ht : t ∈ place (.ofText text) 0 pieces) :
    Occupies text t.span t.position t.lexeme := by
  obtain ⟨before, after, hsplit⟩ := List.append_of_mem ht
  obtain ⟨hpieces, hstart, hposition⟩ := place_eq_append_cons hsplit
  have hne : t.piece.2 ≠ [] := h.word_ne_nil _ (by simp [hpieces])
  have hwhole : text.toList = spell (before.map Token.piece) ++ t.piece.2 ++
      (spell (after.map Token.piece) ++ rest) := by
    simp [htext, hpieces, spell]
  have hoccupies := Occupies.of_toList hne hwhole
  rw [Nat.zero_add] at hstart
  rw [← hstart, ← stop_of_mem_place ht, ← hposition] at hoccupies
  simpa [Token.piece] using hoccupies

theorem tiles_place (htext : text.toList = spell pieces) (h : Munched patterns [] pieces) :
    Tiles text (place (.ofText text) 0 pieces) := by
  refine ⟨?_, fun t ht => ?_, isChain_place _ _ _, fun t ht => ?_, fun t ht => ?_⟩
  · cases h with
    | nil => simpa [place] using htext
    | cons hlongest _ _ =>
      have hne : text ≠ "" := fun heq => by simp [heq, hlongest.ne_nil] at htext
      simp [place, hne]
  · cases pieces with
    | nil => cases ht
    | cons piece pieces =>
      obtain rfl := Option.some.inj ht
      rfl
  · have hend := endOf_place (.ofText text) pieces
    rw [endOf, Option.mem_def.1 ht, ← htext, Text.byteLength_toList] at hend
    exact hend
  · exact occupies_of_mem_place (htext.trans (List.append_nil _).symm) h ht

/-- The tokens of a text tile it: without text there are none, and otherwise their spans go from the
beginning to the end, none is empty, and each begins where the one before it ends. A token is the
text at its span, at the position that the line feeds before it tell. A failure is at a character of
the text, at the position told in the same way. No look-up of the pass is out of range. -/
theorem tokenizeAll_tiles (lexer : Lexer κ) (text : String) :
    (match (lexer.tokenizeAll text).2 with
      | .ok ts => Tiles text ts
      | .error e => Occupies text ⟨e.offset, e.offset + e.character.utf8Size⟩ e.position
          e.character.toString) ∧
    ByIndex.scanText lexer text = some (lexer.scanText text) := by
  have htext : text.toList = [] ++ text.toList := rfl
  refine ⟨?_, byIndex_scan_eq lexer.patterns htext⟩
  obtain ⟨pieces, rest, htext, hmunched, hstuck⟩ := exists_munched lexer.patterns text.toList
  cases rest with
  | nil =>
    rw [List.append_nil] at htext
    rw [tokenizeAll_of_munched htext hmunched]
    exact tiles_place htext hmunched
  | cons c rest =>
    rw [tokenizeAll_of_stuck htext hmunched hstuck]
    exact Occupies.of_toList (List.cons_ne_nil c []) (by rw [htext, List.append_assoc]; rfl)

end Lexer

end Reckoner
