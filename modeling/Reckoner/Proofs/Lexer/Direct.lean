import Mathlib.Data.List.TakeWhile
import Reckoner.Lexer.Direct
import Reckoner.Proofs.Lexer.Significant

/-! The automata of arithmetic find what a direct scanner finds. Maximal munch determines the tokens and
the place of a failure, and the direct scanner takes the pieces of maximal munch one by one, because
a lexeme ends where the next character does not extend it. -/

namespace Reckoner

/-- A token without its line and column. -/
def Token.spanned {κ : Type} (t : Token κ) : κ × String × Span := (t.kind, t.lexeme, t.span)

namespace Direct

open Lexer

variable {k : TokenKind} {c : Char} {cs word rest : List Char}

theorem isBlank_iff : isBlank c = true ↔ IsBlank c := by
  simp [isBlank, isBlank_iff_eq, or_assoc]

theorem isBlank_eq_false (h : TokenKind.ofFirst? c ≠ some .whitespace) : isBlank c = false := by
  rw [Bool.eq_false_iff]
  exact fun hblank => h (TokenKind.ofFirst?_of_blank (isBlank_iff.1 hblank))

theorem symbol?_eq_none (h : c.isDigit ∨ c = '.') : symbol? c = none := by
  unfold symbol?
  split <;> simp_all

/-- The number at the beginning of a text is the one that the next character does not extend. -/
theorem number?_append (h : IsNumber word) (hstops : ∀ c ∈ rest.head?, c.isDigit = false) :
    number? (word ++ rest) = some word := by
  obtain ⟨whole, fraction, rfl, hwhole, hne, hfraction⟩ := h
  have hpoint := digits_stop_at_point (fraction ++ rest)
  have htext : whole ++ '.' :: fraction ++ rest = whole ++ '.' :: (fraction ++ rest) := by simp
  rw [number?, htext, dropWhile_append_of_stop hwhole hpoint, takeWhile_append_of_stop hwhole hpoint]
  simp only [takeWhile_append_of_stop hfraction hstops]
  simp [hne]

theorem isNumber_of_number? (h : number? cs = some word) : IsNumber word ∧ word <+: cs := by
  have hdigits : ∀ ds : List Char, ∀ c ∈ ds.takeWhile Char.isDigit, c.isDigit = true :=
    fun ds c hc => List.mem_takeWhile_imp hc
  have hcs := List.takeWhile_append_dropWhile (p := Char.isDigit) (l := cs)
  unfold number? at h
  split at h
  next rest hrest =>
    have hrest' := List.takeWhile_append_dropWhile (p := Char.isDigit) (l := rest)
    rw [hrest] at hcs
    dsimp only at h
    split at h
    · cases h
    next hne =>
      obtain rfl := Option.some.inj h
      refine ⟨⟨_, _, rfl, hdigits cs, by simpa using hne, hdigits rest⟩, ?_⟩
      refine ⟨rest.dropWhile Char.isDigit, ?_⟩
      rw [List.append_assoc, List.cons_append, hrest', hcs]
  next => cases h

theorem spells_of_symbol? (h : symbol? c = some k) : k.Spells [c] := by
  unfold symbol? at h
  split at h <;> cases h <;> rfl

/-- A lexeme that is neither a number nor blank is one symbol. -/
theorem symbol?_of_spells (h : k.Spells word) (hnum : k ≠ .num) (hblank : k ≠ .whitespace) :
    ∃ c, word = [c] ∧ symbol? c = some k := by
  cases k with
  | num => exact absurd rfl hnum
  | whitespace => exact absurd rfl hblank
  | _ => exact ⟨_, h, rfl⟩

section Step

variable (hstops : ∀ c ∈ rest.head?, ¬ k.Extends c) (offset : Nat)

include hstops

theorem scan_blanks (h : k.Spells word) (hk : k = .whitespace) :
    scan offset (word ++ rest) = scan (offset + Text.byteLength word) rest := by
  subst hk
  obtain ⟨hne, hblank⟩ := h
  obtain ⟨c, word, rfl⟩ := List.exists_cons_of_ne_nil hne
  obtain ⟨hc, hblank⟩ := List.forall_mem_cons.1 hblank
  have hword : ∀ c ∈ word, isBlank c = true := fun c hc => isBlank_iff.2 (hblank c hc)
  have hends : ∀ c ∈ rest.head?, isBlank c = false := fun c hc =>
    Bool.eq_false_iff.2 fun h => hstops c hc (isBlank_iff.1 h)
  rw [List.cons_append, scan, if_pos (isBlank_iff.2 hc), takeWhile_append_of_stop hword hends,
    dropWhile_append_of_stop hword hends]

theorem scan_token (h : k.Spells word) (hk : k ≠ .whitespace) :
    scan offset (word ++ rest) =
      (scan (offset + Text.byteLength word) rest).map
        ((k, String.ofList word, ⟨offset, offset + Text.byteLength word⟩) :: ·) := by
  obtain ⟨c, word, rfl⟩ := List.exists_cons_of_ne_nil h.ne_nil
  have hfirst := h.first
  have hblank : ¬ isBlank c = true := by
    rw [isBlank_eq_false (by rw [hfirst]; simpa using hk)]
    exact Bool.false_ne_true
  by_cases hnum : k = .num
  · subst hnum
    have hends : ∀ c ∈ rest.head?, c.isDigit = false := fun c hc => Bool.eq_false_iff.2 (hstops c hc)
    have hsymbol : symbol? c = none := symbol?_eq_none ((isNumber_cons.1 h).imp And.left And.left)
    have hnumber : number? (c :: (word ++ rest)) = some (c :: word) := number?_append h hends
    rw [List.cons_append, scan, if_neg hblank]
    simp [hsymbol, hnumber]
  · obtain ⟨d, hd, hsymbol⟩ := symbol?_of_spells h hnum hk
    obtain ⟨rfl, rfl⟩ := List.cons.inj hd
    have hlexeme : c.toString = String.ofList [c] := by
      rw [Char.toString_eq_singleton, String.singleton_eq_ofList]
    rw [List.cons_append, scan, if_neg hblank]
    simp only [hsymbol, hlexeme, Text.byteLength, Nat.add_zero, List.nil_append]

end Step

theorem scan_of_stuck (hs : Stuck arithmeticPatterns (c :: rest)) (offset : Nat) :
    scan offset (c :: rest) = .error (c, offset) := by
  have hnone : ∀ (k : TokenKind) word, k.Spells word → ¬ word <+: c :: rest := fun k word h hbegins =>
    hs word h.ne_nil hbegins ((recognizes_iff h.ne_nil).2 ⟨k, h⟩)
  have hsingle : [c] <+: c :: rest := by simp
  have hblank : ¬ isBlank c = true := fun hblank =>
    hnone .whitespace [c] ⟨by simp, by simpa using isBlank_iff.1 hblank⟩ hsingle
  have hsymbol : symbol? c = none := by
    cases h : symbol? c with
    | none => rfl
    | some k => exact absurd hsingle (hnone k [c] (spells_of_symbol? h))
  have hnumber : number? (c :: rest) = none := by
    cases h : number? (c :: rest) with
    | none => rfl
    | some word =>
      obtain ⟨hword, hbegins⟩ := isNumber_of_number? h
      exact absurd hbegins (hnone .num word hword)
  rw [scan, if_neg hblank]
  simp [hsymbol, hnumber]

/-- The outcome of the scanner where a text has the tokens and then a failure or none. -/
def outcome (ts : Tokens) : Option LexError → Except (Char × Nat) (List (TokenKind × String × Span))
  | none => .ok ((ts.filter fun t => t.kind ≠ .whitespace).map Token.spanned)
  | some e => .error (e.character, e.offset)

/-- The scanner takes the pieces of maximal munch, passes over blanks, and fails at what they leave. -/
theorem scan_of_munched {pieces : List (TokenKind × List Char)}
    (h : Munched arithmeticPatterns rest pieces) (hs : Stuck arithmeticPatterns rest)
    (index : LineIndex) (offset : Nat) :
    scan offset (spell pieces ++ rest) = outcome (place index offset pieces)
      (failureAt index (offset + Text.byteLength (spell pieces)) rest) := by
  induction pieces generalizing offset with
  | nil =>
    cases rest with
    | nil => simp [scan, outcome, failureAt, place]
    | cons c rest => exact scan_of_stuck hs offset
  | cons piece pieces ih =>
    obtain ⟨kind, word⟩ := piece
    obtain ⟨hword, hstops, h⟩ := munched_cons_iff.1 h
    have ih := ih h (offset + Text.byteLength word)
    rw [spell_cons, List.append_assoc, Text.byteLength_append, ← Nat.add_assoc, place]
    by_cases hkind : kind = .whitespace
    · rw [scan_blanks hstops offset hword hkind, ih]
      cases failureAt index (offset + Text.byteLength word + Text.byteLength (spell pieces)) rest <;>
        simp [outcome, hkind]
    · rw [scan_token hstops offset hword hkind, ih]
      cases failureAt index (offset + Text.byteLength word + Text.byteLength (spell pieces)) rest <;>
        simp [outcome, hkind, Except.map, Token.spanned]

end Direct

/-- The lexer of arithmetic and the direct scanner agree on every text: on kinds, lexemes and spans, or
on the character and the offset of the failure. -/
theorem Lexer.lex_agrees_with_direct (text : String) :
    ((lex text).map (List.map Token.spanned)).mapError (fun e => (e.character, e.offset)) =
      Direct.scan 0 text.toList := by
  obtain ⟨pieces, rest, htext, hmunched, hstuck⟩ := exists_munched arithmeticPatterns text.toList
  rw [htext, Direct.scan_of_munched hmunched hstuck (.ofText text) 0, Nat.zero_add]
  cases rest with
  | nil =>
    rw [List.append_nil] at htext
    rw [lex_of_munched htext hmunched]
    rfl
  | cons c rest =>
    rw [lex_of_stuck htext hmunched hstuck]
    rfl

-- An integer fails at its first digit, not where a point is missing.
example : Direct.scan 0 "(.5 - 12 )".toList = .error ('1', 6) := by decide +kernel

end Reckoner
