import Reckoner.Proofs.Expr.ErrorPlace
import Reckoner.Proofs.Text.Offsets

/-! The caret below an error. The text before an error is made of lexemes, whose characters have one byte
each, so the column of the error counts characters as well. What an excerpt writes in front of the
marked line has the width that the caret allows for up to the line number 999, and is wider from
1000 on, where the caret stands too far to the left, `ofText_error_caret`. -/

namespace Reckoner

open Lexer

namespace Text

/-- What an excerpt writes in front of the line that it marks. -/
def markedGutter (i : Nat) : String := shownLine ">>" i ""

theorem shownLine_marked (i : Nat) (line : String) :
    shownLine ">>" i line = markedGutter i ++ line := by
  simp only [markedGutter, shownLine, String.append_assoc, String.empty_append]

/-- The gutter has the width that the caret allows for if the number of the line has up to three digits. -/
theorem length_markedGutter (i : Nat) : (markedGutter i).length = 9 ↔ i < 999 := by
  have hdigits : (Nat.toDigits 10 (i + 1)).length ≤ 3 ↔ i + 1 < 10 ^ 3 :=
    Nat.length_toDigits_le_iff (by decide) (by decide)
  have hnumber : (toString (i + 1)).toList = Nat.toDigits 10 (i + 1) := by simp
  have hmark : (">>" ++ " ").length = 3 := rfl
  have hbar : (" | " ++ "").length = 3 := rfl
  rw [markedGutter, shownLine, String.append_assoc, String.length_append, String.length_append, hmark,
    hbar, String.length_ofList, List.length_leftpad, hnumber]
  omega

theorem idxOf_caretLine (column : Nat) :
    (caretLine column).toList.idxOf '^' = column + 9 := by
  rw [caretLine, String.toList_append, String.toList_ofList, List.idxOf_append_of_notMem]
  · simp
  · simp

theorem byteLength_eq_length {cs : List Char} (h : ∀ c ∈ cs, c.utf8Size = 1) :
    byteLength cs = cs.length := by
  induction cs with
  | nil => rfl
  | cons c cs ih =>
    obtain ⟨hc, hcs⟩ := List.forall_mem_cons.1 h
    rw [byteLength, hc, ih hcs, List.length_cons, Nat.add_comm]

theorem splitLines_feeds (n : Nat) (cs : List Char) :
    splitLines (List.replicate n '\n' ++ cs) = List.replicate n [] ++ splitLines cs := by
  induction n with
  | zero => rfl
  | succ n ih =>
    rw [List.replicate_succ, List.cons_append, splitLines, ih, List.replicate_succ, List.cons_append]

end Text

theorem TokenKind.Spells.utf8Size_eq_one {k : TokenKind} {word : List Char} (h : k.Spells word) :
    ∀ c ∈ word, c.utf8Size = 1 := by
  have hdigit : ∀ c : Char, c.isDigit → c.utf8Size = 1 := by
    intro c hc
    simp only [Char.isDigit, Bool.and_eq_true, decide_eq_true_eq] at hc
    exact Char.utf8Size_eq_one_iff.2 (UInt32.le_trans hc.2 (by decide))
  intro c hc
  cases k with
  | num =>
    obtain ⟨whole, fraction, rfl, hwhole, _, hfraction⟩ := h
    rcases List.mem_append.1 hc with hc | hc
    · exact hdigit c (hwhole c hc)
    rcases List.mem_cons.1 hc with rfl | hc
    · decide
    · exact hdigit c (hfraction c hc)
  | whitespace =>
    rcases isBlank_iff_eq.1 (h.2 c hc) with rfl | rfl | rfl | rfl <;> decide
  | _ =>
    cases h
    rw [List.mem_singleton.1 hc]
    decide

theorem StandsAfter.utf8Size_eq_one {text : String} {p : Position} {word : List Char}
    {pieces : List (TokenKind × List Char)} (h : StandsAfter text p word pieces) :
    ∀ c ∈ spell pieces, c.utf8Size = 1 := by
  intro c hc
  obtain ⟨piece, hpiece, hc⟩ := List.mem_flatMap.1 hc
  exact (h.spells piece hpiece).utf8Size_eq_one c hc

/-- The excerpt at `p` shows the line of `p`, which what the error is about cuts into `left` and `right`,
and below it the line of the caret. -/
structure SyntaxError.PointedAt (e : SyntaxError) (text : String) (p : Position)
    (left word right : String) : Prop where
  line_eq : (Text.lines text)[p.line]? = some (left ++ word ++ right)
  column_eq : left.utf8ByteSize = p.column
  offending_eq : e.offending? = some word
  ne_empty : word ≠ ""
  excerpt_eq : ∃ above below, Text.excerpt text p =
    String.join ((above ++
      [Text.markedGutter p.line ++ left ++ word ++ right, Text.caretLine p.column] ++ below).map
        (· ++ "\n"))

namespace Expr

/-- Behind line feeds stands a character that begins no lexeme. -/
theorem ofText_feeds (n : Nat) :
    ofText (String.ofList (List.replicate (n + 1) '\n' ++ ['@'])) =
      .error (.lexical ⟨'@', n + 1, ⟨n + 1, 0⟩⟩) := by
  have hsize : ∀ c ∈ List.replicate (n + 1) '\n', c.utf8Size = 1 := fun c hc =>
    List.eq_of_mem_replicate hc ▸ by decide
  have hlength : Text.byteLength (List.replicate (n + 1) '\n') = n + 1 := by
    rw [Text.byteLength_eq_length hsize, List.length_replicate]
  let pieces : List (TokenKind × List Char) := [(.whitespace, List.replicate (n + 1) '\n')]
  have hspell : spell pieces = List.replicate (n + 1) '\n' := List.append_nil _
  have htext : (String.ofList (List.replicate (n + 1) '\n' ++ ['@'])).toList =
      spell pieces ++ ['@'] := by
    rw [String.toList_ofList, hspell]
  have hblank : TokenKind.whitespace.Spells (List.replicate (n + 1) '\n') :=
    ⟨by simp, fun c hc => List.eq_of_mem_replicate hc ▸ by decide⟩
  have hmunched : Munched arithmeticPatterns ['@'] pieces :=
    munched_cons_iff.2 ⟨hblank, by simp [TokenKind.Extends, IsBlank], .nil⟩
  have hstuck : Stuck arithmeticPatterns ['@'] := by
    intro word hne hbegins hrec
    obtain ⟨k, hk⟩ := (recognizes_iff hne).1 hrec
    obtain ⟨c, word, rfl⟩ := List.exists_cons_of_ne_nil hne
    obtain rfl : c = '@' := (List.cons_prefix_cons.1 hbegins).1
    exact absurd hk.first (by simp [show TokenKind.ofFirst? '@' = none by decide])
  have hposition := Text.position_eq_after htext
  have hafter : Position.after (List.replicate (n + 1) '\n') = ⟨n + 1, 0⟩ := by
    simp [Position.after, List.rtakeWhile, Text.byteLength]
  rw [ofText_of_lex_error (lex_of_stuck htext hmunched hstuck), hposition, hspell, hlength, hafter]

/-- The caret has the same index in its line as the first character of what the error is about has in the
marked line above it, up to the line with the number 999. From the line with the number 1000 on it
has another. -/
theorem ofText_error_caret (text : String) (e : SyntaxError) (p : Position)
    (h : ofText text = .error e) (hp : e.position? = some p) :
    ∃ left word right, e.PointedAt text p left word right ∧
      ((Text.caretLine p.column).toList.idxOf '^' = (Text.markedGutter p.line ++ left).length ↔
        p.line < 999) := by
  obtain ⟨word, pieces, hword, hstands⟩ := standsAfter_of_ofText_eq_error h hp
  obtain ⟨after, htext⟩ := hstands.text_eq
  obtain ⟨left, right, hline, hsuffix, hcolumn⟩ :=
    Text.exists_line_of_position htext hstands.ne_nil hstands.standsAt.no_line_end
  rw [← hstands.position_eq] at hline hcolumn
  rw [String.ofList_toList] at hline
  -- The characters between the beginning of the line and the error have one byte each.
  have hbytes : Text.byteLength left = left.length :=
    Text.byteLength_eq_length fun c hc => hstands.utf8Size_eq_one c (hsuffix.subset hc)
  refine ⟨String.ofList left, word, String.ofList right, ⟨hline, ?_, hword, ?_, ?_⟩, ?_⟩
  · rw [Text.utf8ByteSize_ofList, hcolumn]
  · rintro rfl
    exact hstands.ne_nil rfl
  · refine ⟨Text.linesNear text p.line (· < p.line), Text.linesNear text p.line (p.line < ·), ?_⟩
    rw [Text.excerpt_eq hline, Text.excerptLines, Text.shownLine_marked, ← String.append_assoc,
      ← String.append_assoc]
  · rw [Text.idxOf_caretLine, String.length_append, String.length_ofList, ← hbytes, hcolumn,
      ← Text.length_markedGutter]
    omega

/-- A missing operand behind a tab on the second line. -/
theorem ofText_error_caret_operand :
    let text := "1.5 +\n\t(2.5 * )"
    let p : Position := ⟨1, 8⟩
    let e := SyntaxError.grammatical (.unexpectedToken .operand ⟨.rparen, ")", ⟨14, 15⟩, p⟩)
    ofText text = .error e ∧ e.position? = some p ∧
      ∃ left word right, e.PointedAt text p left word right ∧
        (Text.caretLine p.column).toList.idxOf '^' = (Text.markedGutter p.line ++ left).length := by
  intro text p e
  have h : ofText text = .error e := eq_error_of_map (by decide +kernel)
  obtain ⟨left, word, right, hpointed, haligned⟩ := ofText_error_caret text e p h rfl
  exact ⟨h, rfl, left, word, right, hpointed, haligned.2 (by decide)⟩

/-- On the line with the number 1000 the character in error has index 10, and the caret index 9. -/
theorem caret_misplaced_on_line_1000 :
    let text := String.ofList (List.replicate 999 '\n' ++ ['@'])
    let e := SyntaxError.lexical ⟨'@', 999, ⟨999, 0⟩⟩
    ofText text = .error e ∧ e.position? = some ⟨999, 0⟩ ∧ e.offending? = some "@" ∧
      Text.excerpt text ⟨999, 0⟩ =
        "   998 | \n" ++ "   999 | \n" ++ ">> 1000 | @\n" ++ "         ^\n" ∧
      ">> 1000 | @".toList.idxOf '@' = 10 ∧ "         ^".toList.idxOf '^' = 9 := by
  refine ⟨ofText_feeds 998, rfl, rfl, ?_, by decide, by decide⟩
  have hlines : Text.lines (String.ofList (List.replicate 999 '\n' ++ ['@'])) =
      List.replicate 999 "" ++ ["@"] := by
    rw [Text.lines, String.toList_ofList, Text.splitLines_feeds, List.map_append, List.map_replicate]
    rfl
  have hempty : (List.replicate 999 "").length = 999 := List.length_replicate
  have hall : (List.replicate 999 "" ++ ["@"]).length = 1000 := by
    rw [List.length_append, hempty]
    rfl
  rw [Text.excerpt, hlines, List.take_of_length_le (by rw [hall]; decide),
    List.drop_append_of_le_length (by rw [hempty]; decide), List.drop_replicate]
  decide +kernel

end Expr

end Reckoner
