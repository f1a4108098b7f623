import Reckoner.Proofs.Lexer.Outcome

/-! A text may be cut where a token ends. An attempt looks past the lexeme that it finds, but a
prefix that is the longest of all stays so when less of the text follows it. So the part before the
cut has the tokens before it, and the part after has the others, as many bytes nearer to the
beginning as were cut off. -/

namespace Reckoner

/-- The span with `n` more bytes before it. -/
def Span.shift (n : Nat) (s : Span) : Span := ⟨n + s.start, n + s.stop⟩

namespace Lexer

variable {κ : Type} {patterns : List (Pattern κ)} {lexer : Lexer κ}
  {before after pieces : List (κ × List Char)} {rest : List Char}

/-- Where the last of the tokens ends; zero if there is none. -/
def endOf (ts : List (Token κ)) : Nat := (ts.getLast?.map fun t => t.span.stop).getD 0

/-- `part` is the outcome of the last part of a text, and `whole` that of the whole text. The part
begins after `n` bytes, and has the tokens `ts` if there is no failure. -/
def Continues (n : Nat) (ts : List (Token κ)) (whole part : Except LexError (List (Token κ))) :
    Prop :=
  match whole, part with
  | .ok _, .ok us =>
    us.map (fun t => (t.kind, t.lexeme, t.span.shift n)) =
      ts.map fun t => (t.kind, t.lexeme, t.span)
  | .error e, .error e' => e'.character = e.character ∧ n + e'.offset = e.offset
  | _, _ => False

theorem spell_append (before after : List (κ × List Char)) :
    spell (before ++ after) = spell before ++ spell after := List.flatMap_append

/-- A longest prefix is still the longest when less of the text follows it. -/
theorem Longest.of_shorter {cs ds word : List Char} (h : Longest patterns cs word)
    (hbegins : word <+: ds) (hshorter : ds <+: cs) : Longest patterns ds word :=
  ⟨h.ne_nil, hbegins, h.recognized, fun other hother => h.longest other (hother.trans hshorter)⟩

theorem Munched.split (h : Munched patterns rest (before ++ after)) :
    Munched patterns [] before ∧ Munched patterns rest after := by
  induction before with
  | nil => exact ⟨.nil, h⟩
  | cons piece before ih =>
    cases h with
    | @cons p word _ hlongest hfirst h =>
      obtain ⟨hbefore, hafter⟩ := ih h
      have hshorter : word ++ (spell before ++ []) <+:
          word ++ (spell (before ++ after) ++ rest) := by
        rw [spell_append, List.append_nil, List.append_assoc, List.prefix_append_right_inj]
        exact List.prefix_append _ _
      exact ⟨.cons (hlongest.of_shorter (List.prefix_append _ _) hshorter) hfirst hbefore, hafter⟩

theorem endOf_place (index : LineIndex) (pieces : List (κ × List Char)) :
    endOf (place index 0 pieces) = Text.byteLength (spell pieces) := by
  -- Without tokens the end is where the tokens would begin.
  have hend : ∀ offset, ((place index offset pieces).getLast?.map fun t => t.span.stop).getD offset =
      offset + Text.byteLength (spell pieces) := by
    induction pieces with
    | nil => intro offset; rfl
    | cons piece pieces ih =>
      intro offset
      have hlast := ih (offset + Text.byteLength piece.2)
      rw [place, List.getLast?_cons, Option.map_some, Option.getD_some, spell_cons,
        Text.byteLength_append, ← Nat.add_assoc, ← hlast]
      cases (place index (offset + Text.byteLength piece.2) pieces).getLast? <;> rfl
  rw [endOf, hend, Nat.zero_add]

theorem place_congr {index index' : LineIndex} {offset : Nat}
    (h : ∀ o ≤ offset + Text.byteLength (spell pieces), index.position o = index'.position o) :
    place index offset pieces = place index' offset pieces := by
  induction pieces generalizing offset with
  | nil => rfl
  | cons piece pieces ih =>
    rw [spell_cons, Text.byteLength_append, ← Nat.add_assoc] at h
    rw [place, place, ih h, h offset (by omega)]

/-- The places of pieces in a later part of a text. -/
theorem place_shift (index index' : LineIndex) (n offset : Nat) (pieces : List (κ × List Char)) :
    (place index' offset pieces).map (fun t => (t.kind, t.lexeme, t.span.shift n)) =
      (place index (n + offset) pieces).map fun t => (t.kind, t.lexeme, t.span) := by
  induction pieces generalizing offset with
  | nil => rfl
  | cons piece pieces ih =>
    simp only [place, List.map_cons, ih, Nat.add_assoc]
    rfl

/-- The part of a text before a cut has the tokens before it. -/
theorem tokenizeAll_before (h : Munched lexer.patterns [] before) (cs : List Char) :
    (lexer.tokenizeAll (String.ofList (spell before))).2 =
      .ok (place (.ofChars (spell before ++ cs)) 0 before) := by
  rw [tokenizeAll_of_munched String.toList_ofList h]
  refine congrArg Except.ok (place_congr fun o ho => ?_)
  rw [Nat.zero_add] at ho
  rw [LineIndex.position_append ho, LineIndex.ofText, String.toList_ofList]

/-- The part of a text after a cut has the tokens after it, or the failure of the text. -/
theorem tokenizeAll_after {text : String} (htext : text.toList = spell (before ++ after) ++ rest)
    (h : Munched lexer.patterns rest (before ++ after)) (hs : Stuck lexer.patterns rest)
    (index : LineIndex) :
    Continues (Text.byteLength (spell before))
      (place index (Text.byteLength (spell before)) after) (lexer.tokenizeAll text).2
      (lexer.tokenizeAll (String.ofList (spell after ++ rest))).2 := by
  obtain ⟨_, hafter⟩ := h.split
  cases rest with
  | nil =>
    rw [List.append_nil] at htext
    rw [tokenizeAll_of_munched htext h, List.append_nil,
      tokenizeAll_of_munched String.toList_ofList hafter]
    exact place_shift index _ _ 0 after
  | cons c rest =>
    rw [tokenizeAll_of_stuck htext h hs, tokenizeAll_of_stuck String.toList_ofList hafter hs]
    refine ⟨rfl, ?_⟩
    rw [spell_append, Text.byteLength_append]

/-- Let `ts` be the tokens found before the end of a text, or before a failure. A text may be cut
where any of them ends, or at its beginning: the part before the cut has exactly the tokens before
it, and the part after has what is left of the outcome. So what comes before a failure has tokens. -/
theorem tokenizeAll_stable_at_boundaries (lexer : Lexer κ) (text : String) :
    let ts := (lexer.scanText text).found.map Prod.fst
    (∀ k : Nat, ∃ first second, text = first ++ second ∧
      first.utf8ByteSize = endOf (ts.take k) ∧
      (lexer.tokenizeAll first).2 = .ok (ts.take k) ∧
      Continues (endOf (ts.take k)) (ts.drop k) (lexer.tokenizeAll text).2
        (lexer.tokenizeAll second).2) ∧
    match (lexer.tokenizeAll text).2 with
    | .ok all => all = ts
    | .error e => ∃ first second, text = first ++ second ∧ first.utf8ByteSize = e.offset ∧
        (lexer.tokenizeAll first).2 = .ok ts := by
  obtain ⟨pieces, rest, htext, hmunched, hstuck⟩ := exists_munched lexer.patterns text.toList
  obtain ⟨hfound, _⟩ := scanText_of_munched htext hmunched hstuck
  intro ts
  have hts : ts = place (.ofText text) 0 pieces := hfound
  have hcut : ∀ before cs, text.toList = before ++ cs →
      text = String.ofList before ++ String.ofList cs := fun before cs h => by
    rw [← String.ofList_append, ← h, String.ofList_toList]
  refine ⟨fun k => ?_, ?_⟩
  · have hpieces : pieces = pieces.take k ++ pieces.drop k := (List.take_append_drop k pieces).symm
    have hsplit : text.toList = spell (pieces.take k) ++ (spell (pieces.drop k) ++ rest) := by
      rw [← List.append_assoc, ← spell_append, ← hpieces]
      exact htext
    have hend : endOf (ts.take k) = Text.byteLength (spell (pieces.take k)) := by
      rw [hts, take_place, endOf_place]
    refine ⟨_, _, hcut _ _ hsplit, ?_, ?_, ?_⟩
    · rw [hend, Text.utf8ByteSize_ofList]
    · rw [hts, take_place, LineIndex.ofText, hsplit]
      exact tokenizeAll_before (hpieces ▸ hmunched).split.1 _
    · rw [hend, hts, drop_place, Nat.zero_add]
      exact tokenizeAll_after (hpieces ▸ htext) (hpieces ▸ hmunched) hstuck _
  · cases rest with
    | nil =>
      rw [tokenizeAll_of_munched (htext.trans (List.append_nil _)) hmunched]
      exact hts.symm
    | cons c rest =>
      rw [tokenizeAll_of_stuck htext hmunched hstuck]
      refine ⟨_, _, hcut _ _ htext, Text.utf8ByteSize_ofList _, ?_⟩
      rw [hts, LineIndex.ofText, htext]
      exact tokenizeAll_before ((List.append_nil pieces).symm ▸ hmunched).split.1 _

end Lexer

end Reckoner
