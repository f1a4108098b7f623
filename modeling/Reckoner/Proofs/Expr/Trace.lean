import Reckoner.Proofs.Expr.ErrorIndex
import Reckoner.Proofs.Text.Offsets

/-! What the work on a text leaves in a log: one pass over the text and one over its tokens, each from
the left and never back. The lexer reports every lexeme up to the end or to its failure, and the parser
every token that it takes, which are all tokens before the one that it fails at. -/

namespace Reckoner

/-- The events that only a log of all detail takes in, in their order. -/
def Traced.details {α : Type} (t : Traced α) : List Event := t.events.filter fun e => e.level = .trace

theorem Traced.details_bind {α β : Type} (t : Traced α) (f : α → Traced β) :
    (t.bind f).details = t.details ++ (f t.value).details :=
  List.filter_append t.events (f t.value).events

/-- The parser takes `m` of the tokens before it has the result: all of them if it comes to their end,
and otherwise those before the first that rules out every expression. A number is taken before it is
read. -/
def Tokens.PassEnds (ts : Tokens) (m : Nat) : Except ParseError Expr → Prop
  | .ok _ | .error (.unexpectedEnd _) => m = ts.length
  | .error (.unexpectedToken _ t) | .error (.trailingToken t) => ts.RuledOutAt m t
  | .error (.invalidNumber t) => ∃ i, ts.RuledOutAt i t ∧ m = i + 1

namespace Level

variable {level : Level} {ts taken rest : Tokens} {t : Token TokenKind} {e : Expr} {err : ParseError}

theorem Derives.read_isSome (h : level.Derives ts e) :
    ∀ t ∈ ts, t.kind = .num → (Decimal.read t.lexeme).isSome := by
  induction h with
  | number _ hx => simp [hx]
  | parens hl _ hr ih => simpa [or_imp, forall_and, hl, hr] using ih
  | ofLiteral _ ih | ofProduct _ ih => exact ih
  | mul _ ht _ ihl ihr | div _ ht _ ihl ihr | add _ ht _ ihl ihr | sub _ ht _ ihl ihr =>
    simpa [or_imp, forall_and, ht] using ⟨ihl, ihr⟩

theorem Reads.passEnds_of_error (h : sum.Reads ts taken (.error err)) :
    taken = ts.take taken.length ∧ ts.PassEnds taken.length (.error err) := by
  have hblames := h.blames
  cases err with
  | unexpectedToken expected t =>
    obtain ⟨⟨rest, rfl⟩, hc, hsame⟩ := hblames
    refine ⟨List.take_left.symm, Tokens.ruledOutAt_length rest (Tokens.viable_iff.2 hc) ?_⟩
    intro more e he
    rw [(hsame more).ofTokens_eq] at he
    cases he
  | unexpectedEnd expected =>
    obtain ⟨rfl, -⟩ := hblames
    exact ⟨List.take_length.symm, rfl⟩
  | trailingToken t => exact hblames.elim
  | invalidNumber t =>
    obtain ⟨-, -, -, hkind, hnone, -⟩ := hblames
    obtain ⟨used, rest, rfl, rfl, hc⟩ := h.taken_of_invalidNumber
    -- The number is among the tokens taken: the parser reads it only then.
    refine ⟨List.take_left.symm, used.length, ?_, List.length_append⟩
    rw [List.append_assoc]
    refine Tokens.ruledOutAt_length rest (Tokens.viable_iff.2 hc) fun more e he => ?_
    have hread := (Expr.ofTokens_iff.1 he).read_isSome t (by simp) hkind
    rw [hnone] at hread
    cases hread

/-- The tokens that a sum takes are those at the beginning, up to where the result says. -/
theorem Reads.passEnds {result : Except ParseError (Expr × Tokens)} (h : sum.Reads ts taken result) :
    taken = ts.take taken.length ∧ ts.PassEnds taken.length (Expr.ofReading result) := by
  cases result with
  | error err => exact h.passEnds_of_error
  | ok found =>
    obtain ⟨e, rest⟩ := found
    obtain ⟨hd, rfl, -⟩ := h.sound
    refine ⟨List.take_left.symm, ?_⟩
    cases rest with
    | nil => exact (congrArg List.length (List.append_nil taken)).symm
    | cons t rest =>
      refine Tokens.ruledOutAt_length rest (Tokens.viable_iff.2 hd.completable) fun more e' he => ?_
      rw [(h.local more).ofTokens_eq] at he
      cases he

end Level

theorem Expr.details_traceTokens (ts : Tokens) :
    (traceTokens ts).details = (Level.sum.parse ts).taken.map .consumed := by
  simp [Traced.details, traceTokens, Event.level, List.filter_map, Function.comp_def]

theorem Tokens.details_traceText (raw : Bool) (text : String) :
    (traceText raw text).details =
      ((Lexer.arithmetic.scanText text).found.map Prod.fst).map .matched := by
  unfold traceText Traced.details
  dsimp only
  -- The end of the lexer's work is reported at a lower level of detail.
  split <;> simp [Event.level, List.filter_map, Function.comp_def]

theorem Expr.details_traceText (text : String) :
    (traceText text).details = (Tokens.traceText false text).details ++
      match lex text with
      | .ok ts => (traceTokens ts).details
      | .error _ => [] := by
  rw [traceText, Traced.details_bind, value_traceText, if_neg Bool.false_ne_true]
  cases lex text <;> rfl

/-- A failing pass over a text finds the tokens of the text before the failure. -/
theorem Lexer.tokenizeAll_found_before {κ : Type} {lexer : Lexer κ} {text : String} {e : LexError}
    (h : (lexer.tokenizeAll text).2 = .error e) :
    ∃ first second : String, text = first ++ second ∧ first.utf8ByteSize = e.offset ∧
      (lexer.tokenizeAll first).2 = .ok ((lexer.scanText text).found.map Prod.fst) := by
  obtain ⟨pieces, rest, htext, hmunched, hstuck⟩ := exists_munched lexer.patterns text.toList
  obtain ⟨hfound, hfailure⟩ := scanText_of_munched htext hmunched hstuck
  rw [Scan.allTokens_eq_error.1 h] at hfailure
  cases rest with
  | nil => cases hfailure
  | cons c rest =>
    obtain rfl := Option.some.inj hfailure
    refine ⟨_, _, Text.eq_append_of_toList htext, Text.utf8ByteSize_ofList _, ?_⟩
    rw [hfound, LineIndex.ofText, htext]
    exact tokenizeAll_before ((List.append_nil pieces).symm ▸ hmunched).split.1 _

/-- A log of all detail shows one pass from the left over a text and one over its tokens. The lexemes
of the whole text are reported before the tokens that the parser takes, or those of the text before a
failure and nothing else. The parser takes each token once, up to the one that its error is about. -/
theorem Expr.trace_single_pass :
    (∀ text : String, match lexAll text with
      | .ok raw => ∃ ts, lex text = .ok ts ∧
        (traceText text).details = raw.map .matched ++ (traceTokens ts).details
      | .error e => ∃ first second raw, text = first ++ second ∧ first.utf8ByteSize = e.offset ∧
        lexAll first = .ok raw ∧ (traceText text).details = raw.map .matched) ∧
    ∀ ts : Tokens, ∃ m, (traceTokens ts).details = (ts.take m).map .consumed ∧
      ts.PassEnds m (ofTokens ts) := by
  refine ⟨fun text => ?_, fun ts => ?_⟩
  · cases hall : lexAll text with
    | ok raw =>
      obtain ⟨-, hfound⟩ := Lexer.Scan.allTokens_eq_ok.1 hall
      obtain ⟨ts, hlex⟩ : ∃ ts, lex text = .ok ts := Lexer.tokenize_succeeds_iff.2 ⟨raw, hall⟩
      refine ⟨ts, hlex, ?_⟩
      rw [details_traceText, Tokens.details_traceText, hfound, hlex]
    | error e =>
      obtain ⟨first, second, htext, hsize, hfirst⟩ := Lexer.tokenizeAll_found_before hall
      have hlex : lex text = .error e := Lexer.tokenize_eq_error_iff.2 hall
      refine ⟨first, second, _, htext, hsize, hfirst, ?_⟩
      rw [details_traceText, Tokens.details_traceText, hlex, List.append_nil]
  · obtain ⟨htaken, hends⟩ := (Level.reads_parse .sum ts).passEnds
    refine ⟨_, ?_, ofTokens_eq ts ▸ hends⟩
    rw [details_traceTokens, ← htaken]

end Reckoner
