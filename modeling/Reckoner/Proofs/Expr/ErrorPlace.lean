import Reckoner.Proofs.Decimal.Plain
import Reckoner.Proofs.Expr.Place
import Reckoner.Proofs.Expr.Viability
import Reckoner.Proofs.Lexer.Boundary
import Reckoner.Proofs.Lexer.Significant
import Reckoner.Proofs.Text.Excerpt

/-! Where errors in a text stand. The character or the token that an error is about has no blanks in it
and stands at the place of the error, so it stands in a line of the text, and the excerpt marks this
line. -/

namespace Reckoner

/-- The word has no blanks in it and stands at the position in the text. -/
structure StandsAt (text : String) (p : Position) (word : List Char) : Prop where
  ne_nil : word ≠ []
  no_blank : ∀ c ∈ word, ¬ IsBlank c
  found : ∃ before after, text.toList = before ++ word ++ after ∧
    p = (LineIndex.ofText text).position (Text.byteLength before)

theorem StandsAt.no_line_end {text : String} {p : Position} {word : List Char}
    (h : StandsAt text p word) : ∀ c ∈ word, c ≠ '\n' ∧ c ≠ '\r' := by
  intro c hc
  have hblank := h.no_blank c hc
  constructor <;> rintro rfl <;> exact hblank (by decide)

/-- The word has no blanks in it and stands at the position behind lexemes that make up the text before
it. -/
structure StandsAfter (text : String) (p : Position) (word : List Char)
    (pieces : List (TokenKind × List Char)) : Prop where
  ne_nil : word ≠ []
  no_blank : ∀ c ∈ word, ¬ IsBlank c
  spells : ∀ piece ∈ pieces, piece.1.Spells piece.2
  text_eq : ∃ after, text.toList = Lexer.spell pieces ++ word ++ after
  position_eq : p = (LineIndex.ofText text).position (Text.byteLength (Lexer.spell pieces))

theorem StandsAfter.standsAt {text : String} {p : Position} {word : List Char}
    {pieces : List (TokenKind × List Char)} (h : StandsAfter text p word pieces) :
    StandsAt text p word :=
  have ⟨after, htext⟩ := h.text_eq
  ⟨h.ne_nil, h.no_blank, _, after, htext, h.position_eq⟩

namespace Lexer

variable {text : String} {ts : Tokens} {t : Token TokenKind} {e : LexError}

theorem standsAfter_of_mem (h : lex text = .ok ts) (ht : t ∈ ts) :
    t.kind.Spells t.lexeme.toList ∧
      ∃ pieces, StandsAfter text t.position t.lexeme.toList pieces := by
  obtain ⟨pieces, htext, hmunched, rfl⟩ := exists_pieces_of_lex h
  obtain ⟨hmem, hkind⟩ := List.mem_filter.1 ht
  obtain ⟨before, after, hplace⟩ := List.append_of_mem hmem
  obtain ⟨rfl, hstart, hposition⟩ := place_eq_append_cons hplace
  have hspells := hmunched.spells
  have hlexeme : t.kind.Spells t.lexeme.toList := hspells t.piece (by simp)
  refine ⟨hlexeme, before.map Token.piece, hlexeme.ne_nil, hlexeme.no_blank (of_decide_eq_true hkind),
    fun piece hpiece => hspells piece (List.mem_append_left _ hpiece),
    ⟨spell (after.map Token.piece), ?_⟩, ?_⟩
  · rw [htext, spell_append, List.append_assoc]
    rfl
  · rw [hposition, hstart, Nat.zero_add]

theorem standsAfter_of_error (h : lex text = .error e) :
    ∃ pieces, StandsAfter text e.position [e.character] pieces := by
  obtain ⟨pieces, rest, htext, hmunched, hstuck⟩ := exists_munched arithmetic.patterns text.toList
  cases rest with
  | nil =>
    rw [List.append_nil] at htext
    rw [lex_of_munched htext hmunched] at h
    cases h
  | cons c rest =>
    rw [lex_of_stuck htext hmunched hstuck] at h
    obtain rfl := Except.error.inj h
    -- A blank would be a lexeme, so the lexer would go on.
    have hblank : ¬ IsBlank c := fun hc =>
      hstuck [c] (by simp) (by simp) ((recognizes_iff (by simp)).2 ⟨.whitespace, by simp, by simpa⟩)
    exact ⟨pieces, by simp, by simpa using hblank, hmunched.spells,
      ⟨rest, by simpa using htext⟩, rfl⟩

end Lexer

/-- The token that an error is about; none at the end of the tokens. -/
def ParseError.token? : ParseError → Option (Token TokenKind)
  | unexpectedToken _ t | trailingToken t | invalidNumber t => some t
  | unexpectedEnd _ => none

/-- The text that an error is about: a character that begins no lexeme, or a lexeme. -/
def SyntaxError.offending? : SyntaxError → Option String
  | lexical e => some e.character.toString
  | grammatical e => e.token?.map Token.lexeme

theorem ParseError.position?_eq (err : ParseError) : err.position? = err.token?.map Token.position := by
  cases err <;> rfl

namespace Expr

variable {ts : Tokens} {t : Token TokenKind} {err : ParseError} {text : String} {e : SyntaxError}
  {p : Position}

theorem mem_of_ofTokens_eq_error (h : ofTokens ts = .error err) (ht : err.token? = some t) :
    t ∈ ts := by
  rcases ofTokens_eq_error h with ⟨taken, hread⟩ | ⟨taken, e, u, rest, hread, rfl⟩
  · have hblames := hread.blames
    cases err with
    | unexpectedToken expected u =>
      obtain rfl : u = t := Option.some.inj ht
      obtain ⟨⟨rest, rfl⟩, _⟩ := hblames
      simp
    | unexpectedEnd expected => cases ht
    | trailingToken u => exact hblames.elim
    | invalidNumber u =>
      obtain rfl : u = t := Option.some.inj ht
      obtain ⟨used, rest, rfl, _⟩ := hblames
      simp
  · obtain rfl : u = t := Option.some.inj ht
    obtain ⟨_, rfl, _⟩ := hread.sound
    simp

theorem unreadable_of_invalidNumber (h : ofTokens ts = .error (.invalidNumber t)) :
    t.kind = .num ∧ Decimal.read t.lexeme = none := by
  rcases ofTokens_eq_error h with ⟨taken, hread⟩ | ⟨_, _, _, _, _, hother⟩
  · obtain ⟨_, _, _, hkind, hnone, _⟩ := hread.blames
    exact ⟨hkind, hnone⟩
  · cases hother

theorem ofText_eq_error (h : ofText text = .error e) :
    (∃ err, lex text = .error err ∧ e = .lexical err) ∨
      ∃ ts err, lex text = .ok ts ∧ ofTokens ts = .error err ∧ e = .grammatical err := by
  cases hlex : lex text with
  | error err =>
    rw [ofText_of_lex_error hlex] at h
    exact .inl ⟨err, rfl, (Except.error.inj h).symm⟩
  | ok ts =>
    rw [ofText_of_lex hlex] at h
    cases htokens : ofTokens ts with
    | error err =>
      rw [htokens] at h
      exact .inr ⟨ts, err, rfl, htokens, (Except.error.inj h).symm⟩
    | ok x =>
      rw [htokens] at h
      cases h

/-- An error can be computed although expressions cannot be compared. -/
theorem eq_error_of_map {ε : Type} {x : Except ε Expr} {e : ε}
    (h : x.map (fun _ => ()) = .error e) : x = .error e := by
  cases x with
  | error e' => exact congrArg Except.error (Except.error.inj h)
  | ok => cases h

/-- Every number among the tokens of a text can be read. -/
theorem ofText_ne_invalidNumber (text : String) (t : Token TokenKind) :
    ofText text ≠ .error (.grammatical (.invalidNumber t)) := by
  intro h
  rcases ofText_eq_error h with ⟨_, _, hlexical⟩ | ⟨ts, err, hlex, htokens, herr⟩
  · cases hlexical
  · cases herr
    obtain ⟨hkind, hnone⟩ := unreadable_of_invalidNumber htokens
    have hspells := (Lexer.standsAfter_of_mem hlex (mem_of_ofTokens_eq_error htokens rfl)).1
    rw [hkind] at hspells
    obtain ⟨x, hx⟩ := Decimal.read_number hspells
    rw [hx] at hnone
    cases hnone

/-- What an error is about stands at the place of the error, behind lexemes. -/
theorem standsAfter_of_ofText_eq_error (h : ofText text = .error e) (hp : e.position? = some p) :
    ∃ word pieces, e.offending? = some word ∧ StandsAfter text p word.toList pieces := by
  rcases ofText_eq_error h with ⟨err, hlex, rfl⟩ | ⟨ts, err, hlex, htokens, rfl⟩
  · obtain rfl : err.position = p := Option.some.inj hp
    obtain ⟨pieces, hstands⟩ := Lexer.standsAfter_of_error hlex
    refine ⟨err.character.toString, pieces, rfl, ?_⟩
    simpa [Char.toString_eq_singleton] using hstands
  · rw [SyntaxError.position?, err.position?_eq] at hp
    obtain ⟨t, ht, rfl⟩ := Option.map_eq_some_iff.1 hp
    obtain ⟨_, pieces, hstands⟩ :=
      Lexer.standsAfter_of_mem hlex (mem_of_ofTokens_eq_error htokens ht)
    exact ⟨t.lexeme, pieces, by simp [SyntaxError.offending?, ht], hstands⟩

theorem standsAt_of_ofText_eq_error (h : ofText text = .error e) (hp : e.position? = some p) :
    ∃ word, e.offending? = some word ∧ StandsAt text p word.toList :=
  have ⟨word, _, hword, hstands⟩ := standsAfter_of_ofText_eq_error h hp
  ⟨word, hword, hstands.standsAt⟩

end Expr

/-- How the excerpt at `p` shows an error: `line` is the line of `p` in the text. -/
structure SyntaxError.ShownAt (e : SyntaxError) (text : String) (p : Position) (line : String) :
    Prop where
  line_eq : (Text.lines text)[p.line]? = some line
  excerpt_eq : Text.excerpt text p =
    String.join ((Text.excerptLines text p line).map (· ++ "\n"))
  no_feed : ∀ l ∈ Text.excerptLines text p line, '\n' ∉ l.toList
  /-- One line of the excerpt is marked, the one of the error. -/
  marked : (Text.excerptLines text p line).filter Text.isMarked = [Text.shownLine ">>" p.line line]
  /-- In this line, what the error is about begins at the column. -/
  offending : ∃ left word right, line = left ++ word ++ right ∧ left.utf8ByteSize = p.column ∧
    e.offending? = some word ∧ word ≠ ""

/-- The excerpt at the place of an error marks one line, the line of the text with the number of the
place, and what the error is about begins there at the column of the place. -/
theorem Expr.ofText_error_excerpt (text : String) (e : SyntaxError) (p : Position)
    (h : ofText text = .error e) (hp : e.position? = some p) :
    (∃ line, e.ShownAt text p line) ∧ ∀ t, e ≠ .grammatical (.invalidNumber t) := by
  obtain ⟨word, hword, hstands⟩ := standsAt_of_ofText_eq_error h hp
  obtain ⟨before, after, htext, rfl⟩ := hstands.found
  -- A carriage return at the end of the word could be cut off with the line feed after it.
  obtain ⟨left, right, hline, hcolumn⟩ :=
    Text.line_of_position htext hstands.ne_nil hstands.no_line_end
  rw [String.ofList_toList] at hline
  have hne : word ≠ "" := fun hnil => hstands.ne_nil (by simp [hnil])
  refine ⟨⟨left ++ word ++ right, hline, Text.excerpt_eq hline,
    Text.feed_not_mem_of_mem_excerptLines hline, Text.marked_excerptLines text _ _,
    left, word, right, rfl, hcolumn, hword, hne⟩, ?_⟩
  rintro t rfl
  exact ofText_ne_invalidNumber text t h

/-- The second line of a text lacks an operand before the closing parenthesis. -/
theorem Expr.ofText_error_excerpt_operand :
    let text := "1.5 +\r\n  (2.5 * )\r\n"
    let p : Position := ⟨1, 9⟩
    let e := SyntaxError.grammatical (.unexpectedToken .operand ⟨.rparen, ")", ⟨16, 17⟩, p⟩)
    ofText text = .error e ∧ e.position? = some p ∧
      Text.excerpt text p =
        "     1 | 1.5 +\n" ++ ">>   2 |   (2.5 * )\n" ++ "                  ^\n" ∧
      (∃ line, e.ShownAt text p line) ∧ ∀ t, e ≠ .grammatical (.invalidNumber t) := by
  intro text p e
  have h : ofText text = .error e := eq_error_of_map (by decide +kernel)
  exact ⟨h, rfl, by decide +kernel, ofText_error_excerpt text e p h rfl⟩

end Reckoner
