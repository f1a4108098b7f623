import Reckoner.Proofs.Expr.Blanks
import Reckoner.Proofs.Report.Failure

/-! The tokens from a report in tags. A tag ends at the first closing bracket, because no lexeme of
a number has one, so the tags in a row can be told apart. Each shows as much of its token as the
parser looks at: the kind, and the lexeme of a number. -/

namespace Reckoner

/-- The lexemes of the numbers among the tokens. -/
def Tokens.numbers (ts : Tokens) : List String :=
  (ts.filter fun t => t.kind = .num).map Token.lexeme

theorem Tokens.numbers_cons (t : Token TokenKind) (ts : Tokens) :
    Tokens.numbers (t :: ts) = if t.kind = .num then t.lexeme :: ts.numbers else ts.numbers := by
  unfold numbers
  by_cases hnum : t.kind = .num <;> simp [hnum]

theorem TokenKind.tag_inj {k l : TokenKind} : k.tag = l.tag ↔ k = l := by
  cases k <;> cases l <;> decide

/-- The signs and the parentheses have one lexeme each. -/
theorem TokenKind.Spells.eq_of_symbol {k : TokenKind} {word word' : List Char} (h : k.Spells word)
    (h' : k.Spells word') (hnum : k ≠ .num) (hblank : k ≠ .whitespace) : word = word' := by
  cases k with
  | num => exact absurd rfl hnum
  | whitespace => exact absurd rfl hblank
  | _ => exact Eq.trans h (Eq.symm h')

namespace Token

variable {t u : Token TokenKind} {ts us : Tokens}

/-- What stands between the brackets of a tag. -/
def tagWord (t : Token TokenKind) : List Char :=
  t.kind.tag.toList ++ if t.kind = .num then ':' :: t.lexeme.toList else []

theorem toList_tagText (t : Token TokenKind) : t.tagText.toList = '<' :: (t.tagWord ++ ['>']) := by
  unfold tagText tagWord
  cases t.kind <;> simp

theorem colon_mem_tagWord : ':' ∈ t.tagWord ↔ t.kind = .num := by
  unfold tagWord
  cases t.kind <;> simp [TokenKind.tag]

/-- A colon tells the tag of a number from the others. -/
theorem tagWord_inj : t.tagWord = u.tagWord ↔ t.Agrees u := by
  constructor
  · intro h
    have hnum : t.kind = .num ↔ u.kind = .num := by
      rw [← colon_mem_tagWord, ← colon_mem_tagWord, h]
    by_cases ht : t.kind = .num
    · have hu := hnum.1 ht
      simp only [tagWord, ht, hu, if_true, List.append_cancel_left_eq, List.cons.injEq, true_and,
        String.toList_inj] at h
      exact ⟨ht.trans hu.symm, fun _ => h⟩
    · have hu := mt hnum.2 ht
      simp only [tagWord, if_neg ht, if_neg hu, List.append_nil, String.toList_inj,
        TokenKind.tag_inj] at h
      exact ⟨h, fun hkind => absurd hkind ht⟩
  · rintro ⟨hkind, hlexeme⟩
    unfold tagWord
    rw [← hkind]
    by_cases ht : t.kind = .num
    · rw [if_pos ht, if_pos ht, hlexeme ht]
    · rw [if_neg ht, if_neg ht]

theorem bracket_not_mem_tagWord (h : t.kind.Spells t.lexeme.toList) : '>' ∉ t.tagWord := by
  have htag : ∀ k : TokenKind, '>' ∉ k.tag.toList := by
    intro k
    cases k <;> decide
  unfold tagWord
  by_cases hnum : t.kind = .num
  · rw [hnum] at h
    have hlexeme : '>' ∉ t.lexeme.toList := by
      intro hmem
      rcases IsNumber.mem h hmem with hdigit | hpoint
      · exact absurd hdigit (by decide)
      · exact absurd hpoint (by decide)
    simp [hnum, htag, hlexeme]
  · simp [hnum, htag]

/-- A tag ends where the next text begins, whatever that is. -/
theorem tagText_append_inj (ht : t.kind.Spells t.lexeme.toList)
    (hu : u.kind.Spells u.lexeme.toList) (rest rest' : List Char) :
    t.tagText.toList ++ rest = u.tagText.toList ++ rest' ↔ t.Agrees u ∧ rest = rest' := by
  simp only [toList_tagText, List.cons_append, List.append_assoc, List.nil_append, List.cons.injEq,
    true_and]
  rw [append_cons_inj_of_not_mem (bracket_not_mem_tagWord ht) (bracket_not_mem_tagWord hu),
    tagWord_inj]

theorem tagText_ne_empty (t : Token TokenKind) : t.tagText ≠ "" := by
  intro h
  have hlist := toList_tagText t
  rw [h] at hlist
  simp at hlist

theorem join_tagText_inj (hts : ∀ t ∈ ts, t.kind.Spells t.lexeme.toList)
    (hus : ∀ u ∈ us, u.kind.Spells u.lexeme.toList) :
    String.join (ts.map tagText) = String.join (us.map tagText) ↔ List.Forall₂ Agrees ts us := by
  rw [← String.toList_inj, String.toList_join, String.toList_join, List.flatMap_map,
    List.flatMap_map]
  induction ts generalizing us with
  | nil => cases us <;> simp [tagText_ne_empty]
  | cons t ts ih =>
    cases us with
    | nil => simp [tagText_ne_empty]
    | cons u us =>
      obtain ⟨ht, hts⟩ := List.forall_mem_cons.1 hts
      obtain ⟨hu, hus⟩ := List.forall_mem_cons.1 hus
      rw [List.flatMap_cons, List.flatMap_cons, tagText_append_inj ht hu, List.forall₂_cons,
        ih hts hus]

theorem forall₂_agrees_iff :
    List.Forall₂ Agrees ts us ↔ ts.map kind = us.map kind ∧ ts.numbers = us.numbers := by
  constructor
  · intro h
    induction h with
    | nil => exact ⟨rfl, rfl⟩
    | @cons t u ts us hagree _ ih =>
      obtain ⟨hkinds, hnumbers⟩ := ih
      refine ⟨by rw [List.map_cons, List.map_cons, hagree.kind, hkinds], ?_⟩
      rw [Tokens.numbers_cons, Tokens.numbers_cons, ← hagree.kind, hnumbers]
      by_cases hnum : t.kind = .num
      · rw [if_pos hnum, if_pos hnum, hagree.lexeme hnum]
      · rw [if_neg hnum, if_neg hnum]
  · rintro ⟨hkinds, hnumbers⟩
    induction ts generalizing us with
    | nil =>
      obtain rfl := List.map_eq_nil_iff.1 hkinds.symm
      exact .nil
    | cons t ts ih =>
      obtain ⟨u, us, rfl, hkind, hkinds⟩ := List.map_eq_cons_iff.1 hkinds.symm
      rw [Tokens.numbers_cons, Tokens.numbers_cons, hkind] at hnumbers
      by_cases hnum : t.kind = .num
      · rw [if_pos hnum, if_pos hnum] at hnumbers
        obtain ⟨hlexeme, hnumbers⟩ := List.cons.inj hnumbers
        exact .cons ⟨hkind.symm, fun _ => hlexeme⟩ (ih hkinds.symm hnumbers)
      · rw [if_neg hnum, if_neg hnum] at hnumbers
        exact .cons ⟨hkind.symm, fun h => absurd h hnum⟩ (ih hkinds.symm hnumbers)

/-- Tokens that agree have one lexeme too, unless they are blanks. -/
theorem Agrees.piece_eq (h : t.Agrees u) (ht : t.kind.Spells t.lexeme.toList)
    (hu : u.kind.Spells u.lexeme.toList) (hblank : t.kind ≠ .whitespace) : t.piece = u.piece := by
  refine Prod.ext h.kind ?_
  by_cases hnum : t.kind = .num
  · exact congrArg String.toList (h.lexeme hnum)
  · rw [← h.kind] at hu
    exact ht.eq_of_symbol hu hnum hblank

theorem map_piece_eq_iff (hts : ∀ t ∈ ts, t.kind.Spells t.lexeme.toList)
    (hus : ∀ u ∈ us, u.kind.Spells u.lexeme.toList) (hblank : ∀ t ∈ ts, t.kind ≠ .whitespace) :
    ts.map piece = us.map piece ↔ List.Forall₂ Agrees ts us := by
  rw [← List.forall₂_eq_eq_eq, List.forall₂_map_left_iff, List.forall₂_map_right_iff]
  refine ⟨fun h => h.imp fun _ _ => agrees_of_piece, fun h => ?_⟩
  induction h with
  | nil => exact .nil
  | cons hagree _ ih =>
    obtain ⟨ht, hts⟩ := List.forall_mem_cons.1 hts
    obtain ⟨hu, hus⟩ := List.forall_mem_cons.1 hus
    obtain ⟨hhead, hblank⟩ := List.forall_mem_cons.1 hblank
    exact .cons (hagree.piece_eq ht hu hhead) (ih hts hus hblank)

end Token

namespace Report

variable {text : String} {ts : Tokens}

theorem ofText_simple (h : lex text = .ok ts) (settings : Settings) :
    ofText settings ⟨.token, .simple⟩ text = .ok (String.join (ts.map Token.tagText)) := by
  rw [ofText_token, if_neg (show ¬ Format.simple.isRaw = true by decide), h]
  rfl

theorem ofText_rawSimple (h : lexAll text = .ok ts) (settings : Settings) :
    ofText settings ⟨.token, .rawSimple⟩ text = .ok (String.join (ts.map Token.tagText)) := by
  rw [ofText_token, if_pos (show Format.rawSimple.isRaw = true from rfl), h]
  rfl

/-- Texts that have tokens have reports in tags. Those without blanks are equal exactly if the
tokens have the same kinds and lexemes, those with blanks exactly if the kinds are the same and the
numbers have the same lexemes. So a report without blanks decides how a text is read, up to the
place of an error. -/
theorem tokens_known_from_report (text other : String) (ts us : Tokens) (h : lex text = .ok ts)
    (h' : lex other = .ok us) :
    ∃ allTs allUs, lexAll text = .ok allTs ∧ lexAll other = .ok allUs ∧
      ∃ report report' raw raw' : String,
        (∀ settings, ofText settings ⟨.token, .simple⟩ text = .ok report ∧
          ofText settings ⟨.token, .simple⟩ other = .ok report' ∧
          ofText settings ⟨.token, .rawSimple⟩ text = .ok raw ∧
          ofText settings ⟨.token, .rawSimple⟩ other = .ok raw') ∧
        (report = report' ↔ ts.map Token.piece = us.map Token.piece) ∧
        (raw = raw' ↔ allTs.map Token.kind = allUs.map Token.kind ∧ allTs.numbers = allUs.numbers) ∧
        (report = report' → (Expr.ofText other).mapError SyntaxError.unplaced =
          (Expr.ofText text).mapError SyntaxError.unplaced) := by
  obtain ⟨allTs, hall, rfl⟩ := Lexer.exists_lexAll_of_lex h
  obtain ⟨allUs, hall', rfl⟩ := Lexer.exists_lexAll_of_lex h'
  have hspells : ∀ t ∈ allTs, t.kind.Spells t.lexeme.toList :=
    fun _ => Lexer.spells_of_mem_lexAll hall
  have hspells' : ∀ u ∈ allUs, u.kind.Spells u.lexeme.toList :=
    fun _ => Lexer.spells_of_mem_lexAll hall'
  have hkept : ∀ t ∈ allTs.filter fun t => t.kind ≠ .whitespace, t.kind.Spells t.lexeme.toList :=
    fun t ht => hspells t (List.mem_of_mem_filter ht)
  have hkept' : ∀ u ∈ allUs.filter fun u => u.kind ≠ .whitespace, u.kind.Spells u.lexeme.toList :=
    fun u hu => hspells' u (List.mem_of_mem_filter hu)
  have hreport := (Token.join_tagText_inj hkept hkept').trans
    (Token.map_piece_eq_iff hkept hkept' fun _ => Lexer.ne_whitespace_of_mem h).symm
  refine ⟨allTs, allUs, hall, hall', _, _, _, _, fun settings =>
    ⟨ofText_simple h settings, ofText_simple h' settings, ofText_rawSimple hall settings,
      ofText_rawSimple hall' settings⟩, hreport, ?_, fun heq => ?_⟩
  · exact (Token.join_tagText_inj hspells hspells').trans Token.forall₂_agrees_iff
  · exact (SameReading.of_pieces h h' (hreport.1 heq).symm).2

/-- A number, a sign and a number, with one blank in another place. The reports without blanks are
equal, those with blanks are not. -/
theorem tokens_known_from_report_of_blanks :
    let tokens (sign : Nat) : Tokens := [⟨.num, "1.5", ⟨0, 3⟩, ⟨0, 0⟩⟩,
      ⟨.plus, "+", ⟨sign, sign + 1⟩, ⟨0, sign⟩⟩, ⟨.num, ".2", ⟨5, 7⟩, ⟨0, 5⟩⟩]
    lex "1.5 +.2" = .ok (tokens 4) ∧ lex "1.5+ .2" = .ok (tokens 3) ∧
      (Expr.ofText "1.5+ .2").mapError SyntaxError.unplaced =
        (Expr.ofText "1.5 +.2").mapError SyntaxError.unplaced ∧
      ∃ raw raw', raw ≠ raw' ∧ ∀ settings,
        ofText settings ⟨.token, .rawSimple⟩ "1.5 +.2" = .ok raw ∧
        ofText settings ⟨.token, .rawSimple⟩ "1.5+ .2" = .ok raw' := by
  intro tokens
  have hlex : lex "1.5 +.2" = .ok (tokens 4) := by decide +kernel
  have hlex' : lex "1.5+ .2" = .ok (tokens 3) := by decide +kernel
  obtain ⟨allTs, allUs, hall, hall', report, report', raw, raw', hreports, hsimple, hraw, hread⟩ :=
    tokens_known_from_report _ _ _ _ hlex hlex'
  refine ⟨hlex, hlex', hread (hsimple.2 rfl), raw, raw', fun heq => ?_, fun settings =>
    (hreports settings).2.2⟩
  obtain ⟨hkinds, _⟩ := hraw.1 heq
  have hsame : (lexAll "1.5 +.2").map (List.map Token.kind) =
      (lexAll "1.5+ .2").map (List.map Token.kind) := by
    rw [hall, hall']
    exact congrArg Except.ok hkinds
  exact absurd hsame (by decide +kernel)

end Report

end Reckoner
