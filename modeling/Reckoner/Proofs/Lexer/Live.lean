import Mathlib.Data.List.Forall2
import Reckoner.Lexer.Arithmetic
import Reckoner.Proofs.Lexer.History
import Reckoner.Proofs.Text.Offsets

/-! The live states that a pass leaves behind. Only the last attempt of the pass shows in them, because
an attempt begins with a reset. In it an automaton moves as far as it can, whatever the others do, and
keeps the live states with which it could not go on. -/

namespace Reckoner

namespace Automaton

/-- The start states lead somewhere along every beginning of the word, and along the word itself. -/
def Follows (a : Automaton) (word : List Char) : Prop :=
  ∀ u, u <+: word → ∃ p ∈ a.start, ∃ q, Path a p u q

theorem follows_iff {a : Automaton} {word : List Char} :
    a.Follows word ↔ ¬ (a.reset.applyAll word).isDead = true := by
  have hlive : ∀ u, (∃ p ∈ a.start, ∃ q, Path a p u q) ↔ ¬ (a.reset.applyAll u).isDead = true := by
    intro u
    simp only [isDead_iff, mem_live_applyAll_reset, Classical.not_forall, Classical.not_not]
    exact ⟨fun ⟨p, hp, q, path⟩ => ⟨q, p, hp, path⟩, fun ⟨q, p, hp, path⟩ => ⟨p, hp, q, path⟩⟩
  constructor
  · intro h
    exact (hlive word).1 (h word List.prefix_rfl)
  · rintro h u ⟨more, rfl⟩
    refine (hlive u).2 fun hdead => h ?_
    rw [applyAll_append, applyAll_of_isDead hdead]
    exact hdead

end Automaton

/-- What an attempt on `cs` leaves of a pattern. Only the live states differ from before: they are
those that the start states reach along the longest non-empty prefix of `cs` that they can follow, and
the start states themselves if there is none. -/
structure Pattern.LeftBy {κ : Type} (cs : List Char) (p left : Pattern κ) : Prop where
  idle_eq : left.idle = p.idle
  live_iff : ∃ n, Lexer.Furthest p.automaton.Follows cs n ∧ ∀ q, q ∈ left.automaton.live ↔
    ∃ s ∈ p.automaton.start, Automaton.Path p.automaton s (cs.take n) q
  live_eq_start : Lexer.Furthest p.automaton.Follows cs 0 →
    left.automaton.live = p.automaton.start
  start_eq_empty : left.automaton.live = ∅ → p.automaton.start = ∅

namespace Lexer

variable {κ : Type} {patterns : List (Pattern κ)}

/-- A running runner ends where its automaton cannot move on. -/
theorem Runner.automaton_stepAll {r : Runner κ} (h : r.running = true) (n : Nat) (cs : List Char) :
    ∃ k, Furthest (fun word => ¬ (r.pattern.automaton.applyAll word).isDead = true) cs k ∧
      (r.stepAll n cs).pattern.automaton = r.pattern.automaton.applyAll (cs.take k) := by
  -- A runner that stops is out of the induction: `stepAll_of_not_running` leaves it as it is.
  induction cs generalizing n r with
  | nil => exact ⟨0, .nil, rfl⟩
  | cons c cs ih =>
    by_cases hmove : r.pattern.automaton.canMove c = true
    · have hstep := step_of_canMove h hmove (n + 1)
      obtain ⟨k, hk, hautomaton⟩ := ih (r := r.step c (n + 1)) (by rw [hstep]) (n + 1)
      rw [hstep] at hk hautomaton
      rw [stepAll, hstep]
      have halive : ¬ ((r.pattern.automaton.apply c).applyAll (cs.take k)).isDead = true := by
        cases k with
        | zero =>
          obtain ⟨q, hq⟩ := Automaton.canMove_iff_apply.1 hmove
          exact fun hdead => Automaton.isDead_iff.1 hdead q hq
        | succ k => exact hk.mem (Nat.succ_pos k)
      exact ⟨k + 1, hk.cons halive, hautomaton⟩
    · rw [stepAll, step_of_not_canMove h hmove, stepAll_of_not_running rfl]
      refine ⟨0, .of_no_cons fun word hword => hword ?_, rfl⟩
      have hdead := Automaton.isDead_apply hmove
      rw [Automaton.applyAll_cons, Automaton.applyAll_of_isDead hdead]
      exact hdead

theorem leftBy_stepAll (p : Pattern κ) (cs : List Char) :
    p.LeftBy cs ((Runner.begin p).stepAll 0 cs).pattern := by
  obtain ⟨n, hn, hautomaton⟩ := Runner.automaton_stepAll (r := Runner.begin p) rfl 0 cs
  replace hn : Furthest p.automaton.Follows cs n := hn.congr fun word => Automaton.follows_iff.symm
  replace hautomaton : ((Runner.begin p).stepAll 0 cs).pattern.automaton =
      p.automaton.reset.applyAll (cs.take n) := hautomaton
  have hidle := congrArg Pattern.idle (Runner.reset_pattern_stepAll (r := Runner.begin p) 0 cs)
  refine ⟨hidle, ⟨n, hn, fun q => ?_⟩, fun h0 => ?_, fun hempty => ?_⟩
  · rw [hautomaton, Automaton.mem_live_applyAll_reset]
  · obtain rfl : n = 0 := Nat.eq_zero_of_not_pos fun hpos => h0.beyond n hpos hn.le (hn.mem hpos)
    rw [hautomaton]
    rfl
  · rw [hautomaton] at hempty
    have hdead : (p.automaton.reset.applyAll (cs.take n)).isDead = true := by
      rw [Automaton.isDead, hempty]
      rfl
    obtain rfl : n = 0 := Nat.eq_zero_of_not_pos fun hpos => Automaton.follows_iff.1 (hn.mem hpos) hdead
    exact hempty

theorem leftBy_attempt (patterns : List (Pattern κ)) (cs : List Char) :
    List.Forall₂ (Pattern.LeftBy cs) patterns ((attempt patterns cs).map Runner.pattern) := by
  rw [attempt_eq, List.map_map, List.forall₂_map_right_iff, List.forall₂_same]
  exact fun p _ => leftBy_stepAll p cs

/-- Where the last attempt of a pass began: at its last token, or where it failed. -/
def lastStart? : Except LexError (List (Token κ)) → Option Nat
  | .ok ts => ts.getLast?.map fun t => t.span.start
  | .error e => some e.offset

theorem lastStart?_cons {s : Scan κ} {start : Nat} (h : lastStart? s.allTokens = some start)
    (found : Token κ × Bool) :
    lastStart? ({ s with found := found :: s.found } : Scan κ).allTokens = some start := by
  unfold Scan.allTokens at h ⊢
  cases hfailure : s.failure with
  | none =>
    rw [hfailure] at h
    obtain ⟨t, ht, rfl⟩ := Option.map_eq_some_iff.1 h
    simp only [lastStart?, List.map_cons, List.getLast?_cons, ht]
    rfl
  | some e =>
    rw [hfailure] at h
    exact h

/-- A pass leaves the patterns as its last attempt does. -/
theorem patterns_scan (index : LineIndex) (patterns : List (Pattern κ)) (offset : Nat)
    {cs : List Char} (hne : cs ≠ []) :
    ∃ before after, cs = before ++ after ∧
      lastStart? (scan index patterns offset cs).allTokens =
        some (offset + Text.byteLength before) ∧
      (scan index patterns offset cs).patterns = (attempt patterns after).map Runner.pattern := by
  fun_induction scan index patterns offset cs with
  | case1 => exact absurd rfl hne
  | case2 patterns offset c cs => exact ⟨[], c :: cs, rfl, rfl, rfl⟩
  | case3 patterns offset c cs runners after m hw lexeme stop token _ rest ih =>
    by_cases hrest : (c :: cs).drop m.length = []
    · have hend : rest = ⟨after, [], none⟩ := by simp only [rest, hrest, scan]
      rw [hend]
      exact ⟨[], c :: cs, rfl, rfl, rfl⟩
    · obtain ⟨before, last, htext, hstart, hpatterns⟩ := ih hrest
      refine ⟨lexeme ++ before, last, ?_, ?_, ?_⟩
      · rw [List.append_assoc, ← htext, List.take_append_drop]
      · rw [Text.byteLength_append, ← Nat.add_assoc]
        exact lastStart?_cons hstart _
      · -- The last attempt was made on what this one left, and resets it.
        rw [hpatterns, attempt_congr (reset_attempt patterns (c :: cs))]

/-- A pass over no text leaves a lexer as it is. After any other, every pattern is left as by an
attempt on the text from the beginning of the last token on, or from the failure on. -/
theorem live_after_pass (lexer : Lexer κ) (text : String) :
    (lexer.tokenize text).1 = (lexer.tokenizeAll text).1 ∧
    (lexer.tokenizeAll "").1 = lexer ∧
    (text ≠ "" → ∃ before after : String, text = before ++ after ∧
      lastStart? (lexer.tokenizeAll text).2 = some before.utf8ByteSize ∧
      List.Forall₂ (Pattern.LeftBy after.toList) lexer.patterns
        (lexer.tokenizeAll text).1.patterns) := by
  refine ⟨rfl, by simp [tokenizeAll, scanText, scan], fun hne => ?_⟩
  have hchars : text.toList ≠ [] := fun hnil => hne (String.toList_eq_nil_iff.1 hnil)
  obtain ⟨before, after, htext, hstart, hpatterns⟩ :=
    patterns_scan (.ofText text) lexer.patterns 0 hchars
  refine ⟨_, _, Text.eq_append_of_toList htext, ?_, ?_⟩
  · rw [Text.utf8ByteSize_ofList, ← Nat.zero_add (Text.byteLength before)]
    exact hstart
  · have hleft := leftBy_attempt lexer.patterns after
    rw [← hpatterns] at hleft
    rw [String.toList_ofList]
    exact hleft

/-- A pass that fails at the last character. The number has moved on it, the sign is back at its start
state, and the automaton without states has none live. -/
theorem live_after_pass_of_failure :
    let lexer : Lexer Nat := ⟨[⟨0, .number, false⟩, ⟨1, .single '+', true⟩, ⟨2, .empty, false⟩]⟩
    "1.5+2" ≠ "" ∧
    (∃ before after : String, "1.5+2" = before ++ after ∧
      lastStart? (lexer.tokenizeAll "1.5+2").2 = some before.utf8ByteSize ∧
      List.Forall₂ (Pattern.LeftBy after.toList) lexer.patterns
        (lexer.tokenizeAll "1.5+2").1.patterns) ∧
    (lexer.tokenizeAll "1.5+2").1.patterns.map (fun p => p.automaton.live.toList) =
      [[1], [0], []] := by
  intro lexer
  have hne : "1.5+2" ≠ "" := by decide
  exact ⟨hne, (live_after_pass lexer "1.5+2").2.2 hne, by decide +kernel⟩

end Lexer

end Reckoner
