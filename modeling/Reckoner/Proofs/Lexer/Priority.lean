import Mathlib.Data.List.Pairwise
import Reckoner.Proofs.Lexer.Significant

/-! What the order of the patterns decides. A lexer answers by which pattern is the first that accepts
each word, and by nothing else of their order. If no two patterns accept the same word, any order of
them does the same. A pattern after others that accept all of its words does nothing. -/

namespace Reckoner

/-- The patterns have no non-empty word in common. -/
def Pattern.Apart {κ : Type} (p q : Pattern κ) : Prop :=
  ∀ word, word ≠ [] → ¬ (p.automaton.Accepts word ∧ q.automaton.Accepts word)

theorem Pattern.Apart.symm {κ : Type} {p q : Pattern κ} (h : p.Apart q) : q.Apart p :=
  fun word hne hboth => h word hne hboth.symm

instance {κ : Type} : Std.Symm (@Pattern.Apart κ) := ⟨fun _ _ => Pattern.Apart.symm⟩

namespace Lexer

variable {κ : Type} {patterns others : List (Pattern κ)} {p q : Pattern κ} {cs word : List Char}
  {pieces : List (κ × List Char)} {rest : List Char}

/-- Both lists have the same first pattern for every non-empty word. -/
def SameFirst (patterns others : List (Pattern κ)) : Prop :=
  ∀ word, word ≠ [] → ∀ p, First patterns word p ↔ First others word p

theorem First.mem (h : First patterns word p) : p ∈ patterns ∧ p.automaton.Accepts word :=
  have ⟨_, hi, hacc, _⟩ := h
  ⟨List.mem_of_getElem? hi, hacc⟩

theorem recognizes_iff_exists_first :
    Recognizes patterns word ↔ ∃ p, First patterns word p :=
  ⟨Recognizes.exists_first, fun ⟨p, h⟩ => ⟨p, h.mem⟩⟩

namespace SameFirst

theorem recognizes (h : SameFirst patterns others) (hne : word ≠ []) :
    Recognizes patterns word ↔ Recognizes others word := by
  simp only [recognizes_iff_exists_first, h word hne]

theorem longest (h : SameFirst patterns others) (hl : Longest patterns cs word) :
    Longest others cs word := by
  refine ⟨hl.ne_nil, hl.begins, (h.recognizes hl.ne_nil).1 hl.recognized, fun other hbegins hrec => ?_⟩
  by_cases hne : other = []
  · simp [hne]
  · exact hl.longest other hbegins ((h.recognizes hne).2 hrec)

theorem stuck (h : SameFirst patterns others) (hs : Stuck patterns rest) : Stuck others rest :=
  fun word hne hbegins hrec => hs word hne hbegins ((h.recognizes hne).2 hrec)

theorem munched (h : SameFirst patterns others) (hm : Munched patterns rest pieces) :
    Munched others rest pieces := by
  induction hm with
  | nil => exact .nil
  | cons hlongest hfirst _ ih =>
    exact .cons (h.longest hlongest) ((h _ hlongest.ne_nil _).1 hfirst) ih

variable {lexer other : Lexer κ}

theorem tokenizeAll_eq (h : SameFirst lexer.patterns other.patterns) (text : String) :
    (other.tokenizeAll text).2 = (lexer.tokenizeAll text).2 := by
  obtain ⟨pieces, rest, htext, hmunched, hstuck⟩ := exists_munched lexer.patterns text.toList
  cases rest with
  | nil =>
    rw [List.append_nil] at htext
    rw [tokenizeAll_of_munched htext hmunched, tokenizeAll_of_munched htext (h.munched hmunched)]
  | cons c rest =>
    rw [tokenizeAll_of_stuck htext hmunched hstuck,
      tokenizeAll_of_stuck htext (h.munched hmunched) (h.stuck hstuck)]

theorem keeps_eq (h : SameFirst lexer.patterns other.patterns) {text : String}
    {ts : List (Token κ)} {t : Token κ} (hts : (lexer.tokenizeAll text).2 = .ok ts) (ht : t ∈ ts) :
    other.keeps t = lexer.keeps t := by
  obtain ⟨p, hp, -⟩ := patternOf?_of_mem hts ht
  have hne : t.lexeme.toList ≠ [] := by
    obtain ⟨pieces, -, hmunched, rfl⟩ := tokenizeAll_eq_ok.1 hts
    have hpiece : t.piece ∈ pieces := by
      rw [← map_piece_place (.ofText text) 0 pieces]
      exact List.mem_map_of_mem ht
    exact hmunched.word_ne_nil _ hpiece
  have hother : patternOf? other.patterns t.lexeme = some p :=
    patternOf?_eq_some_iff.2 ((h _ hne p).1 (patternOf?_eq_some_iff.1 hp))
  rw [Lexer.keeps_eq hp, Lexer.keeps_eq hother]

theorem tokenize_eq (h : SameFirst lexer.patterns other.patterns) (text : String) :
    (other.tokenize text).2 = (lexer.tokenize text).2 := by
  rw [Lexer.tokenize_eq, Lexer.tokenize_eq, h.tokenizeAll_eq]
  cases hts : (lexer.tokenizeAll text).2 with
  | error e => rfl
  | ok ts => exact congrArg Except.ok (List.filter_congr fun t ht => h.keeps_eq hts ht)

end SameFirst

theorem pairwise_apart_perm (h : patterns.Pairwise Pattern.Apart) (hperm : patterns.Perm others) :
    others.Pairwise Pattern.Apart :=
  (hperm.pairwise_iff Pattern.Apart.symm).1 h

theorem first_iff_of_apart (h : patterns.Pairwise Pattern.Apart) (hne : word ≠ []) :
    First patterns word p ↔ p ∈ patterns ∧ p.automaton.Accepts word := by
  refine ⟨First.mem, fun ⟨hp, hacc⟩ => ?_⟩
  obtain ⟨q, hfirst⟩ := Recognizes.exists_first ⟨p, hp, hacc⟩
  obtain ⟨hq, hqacc⟩ := hfirst.mem
  by_cases hpq : p = q
  · exact hpq ▸ hfirst
  · exact absurd ⟨hacc, hqacc⟩ (h.forall hp hq hpq word hne)

theorem sameFirst_of_apart (h : patterns.Pairwise Pattern.Apart) (hperm : patterns.Perm others) :
    SameFirst patterns others := by
  intro word hne p
  rw [first_iff_of_apart h hne, first_iff_of_apart (pairwise_apart_perm h hperm) hne, hperm.mem_iff]

/-- The kinds of arithmetic have no lexeme in common. -/
theorem apart_arithmetic : arithmetic.patterns.Pairwise Pattern.Apart := by
  have hkinds : arithmeticPatterns.Pairwise fun p q => p.kind ≠ q.kind := by
    simp [arithmeticPatterns]
  refine hkinds.imp_of_mem fun hp hq hkind word hne hboth => hkind ?_
  have hpspells := (accepts_iff_spells hp hne).1 hboth.1
  have hqspells := (accepts_iff_spells hq hne).1 hboth.2
  exact hpspells.unique hqspells

/-- Patterns of which no two accept the same non-empty word answer alike in every order. Those of
arithmetic are such. -/
theorem order_of_patterns_apart (lexer : Lexer κ) :
    (lexer.patterns.Pairwise Pattern.Apart →
      ∀ other : Lexer κ, lexer.patterns.Perm other.patterns → ∀ text : String,
        (other.tokenize text).2 = (lexer.tokenize text).2 ∧
          (other.tokenizeAll text).2 = (lexer.tokenizeAll text).2) ∧
    arithmetic.patterns.Pairwise Pattern.Apart ∧
    ∀ other : Lexer TokenKind, arithmetic.patterns.Perm other.patterns → ∀ text : String,
      (other.tokenize text).2 = lex text ∧ (other.tokenizeAll text).2 = lexAll text := by
  refine ⟨fun h other hperm text => ?_, apart_arithmetic, fun other hperm text => ?_⟩
  · have hsame := sameFirst_of_apart h hperm
    exact ⟨hsame.tokenize_eq text, hsame.tokenizeAll_eq text⟩
  · have hsame := sameFirst_of_apart apart_arithmetic hperm
    exact ⟨hsame.tokenize_eq text, hsame.tokenizeAll_eq text⟩

/-- A sign and blanks, registered the one way and the other, and arithmetic from its end. -/
theorem order_of_patterns_apart_of_sign :
    let lexer : Lexer Nat := (empty.register 0 (.single '+') false).register 1 .blanks true
    let other : Lexer Nat := (empty.register 1 .blanks true).register 0 (.single '+') false
    let reversed : Lexer TokenKind := ⟨arithmetic.patterns.reverse⟩
    lexer.patterns.Pairwise Pattern.Apart ∧ lexer.patterns.Perm other.patterns ∧
      (other.tokenize "+ \n+").2 = (lexer.tokenize "+ \n+").2 ∧
      (other.tokenizeAll "+ \n+").2 = (lexer.tokenizeAll "+ \n+").2 ∧
      arithmetic.patterns.Perm reversed.patterns ∧
      (reversed.tokenize "(.5 + 2.5)").2 = lex "(.5 + 2.5)" := by
  intro lexer other reversed
  have hapart : lexer.patterns.Pairwise Pattern.Apart := by
    refine List.pairwise_pair.2 fun word _ ⟨hsign, hblanks⟩ => ?_
    rw [Automaton.accepts_single] at hsign
    rw [hsign, Automaton.accepts_blanks] at hblanks
    exact absurd (hblanks '+' (by simp)) (by decide)
  have hperm : lexer.patterns.Perm other.patterns := .swap _ _ []
  have hreversed : arithmetic.patterns.Perm reversed.patterns := (List.reverse_perm _).symm
  obtain ⟨horder, -, harithmetic⟩ := order_of_patterns_apart lexer
  obtain ⟨htokens, hall⟩ := horder hapart other hperm "+ \n+"
  exact ⟨hapart, hperm, htokens, hall, hreversed, (harithmetic reversed hreversed _).1⟩

theorem First.append (h : First patterns word p) : First (patterns ++ others) word p := by
  obtain ⟨i, hi, hacc, hbefore⟩ := h
  have hlt := (List.getElem?_eq_some_iff.1 hi).1
  refine ⟨i, (List.getElem?_append_left hlt).trans hi, hacc, fun j q hj hq => ?_⟩
  rw [List.getElem?_append_left (Nat.lt_trans hj hlt)] at hq
  exact hbefore j q hj hq

theorem sameFirst_append
    (h : ∀ word, word ≠ [] → p.automaton.Accepts word → Recognizes patterns word) :
    SameFirst patterns (patterns ++ [p]) := by
  intro word hne q
  refine ⟨First.append, fun hq => ?_⟩
  have hrec : Recognizes patterns word := by
    obtain ⟨hmem, hacc⟩ := hq.mem
    rcases List.mem_append.1 hmem with hmem | hmem
    · exact ⟨q, hmem, hacc⟩
    · -- The new pattern accepts the word, so an earlier one does.
      obtain rfl := List.mem_singleton.1 hmem
      exact h word hne hacc
  obtain ⟨r, hr⟩ := hrec.exists_first
  rwa [hq.unique hr.append]

/-- A pattern registered after others that accept all of its non-empty words changes no answer. -/
theorem shadowed_pattern_inert (lexer : Lexer κ) (kind : κ) (automaton : Automaton)
    (ignorable : Bool)
    (h : ∀ word, word ≠ [] → automaton.Accepts word → Recognizes lexer.patterns word)
    (text : String) :
    ((lexer.register kind automaton ignorable).tokenize text).2 = (lexer.tokenize text).2 ∧
      ((lexer.register kind automaton ignorable).tokenizeAll text).2 =
        (lexer.tokenizeAll text).2 := by
  have hsame : SameFirst lexer.patterns (lexer.register kind automaton ignorable).patterns :=
    sameFirst_append h
  exact ⟨hsame.tokenize_eq text, hsame.tokenizeAll_eq text⟩

/-- An automaton for the two signs of addition, each of which arithmetic has a pattern for. It moves on
after a sign, where it accepts nothing. -/
theorem shadowed_pattern_inert_of_signs :
    let signs : Automaton :=
      .ofLists [(0, true, false), (1, false, true)] [(0, '+', 1), (0, '-', 1), (1, '+', 2)]
    (∀ word, word ≠ [] → signs.Accepts word → Recognizes arithmetic.patterns word) ∧
      ((arithmetic.register .num signs true).tokenize "-++.5").2 = lex "-++.5" ∧
      ((arithmetic.register .num signs true).tokenizeAll "-++.5").2 = lexAll "-++.5" := by
  intro signs
  have hedges : ∀ p c q, (⟨p, c, q⟩ : Edge) ∈ signs.edges ↔
      p = 0 ∧ (c = '+' ∨ c = '-') ∧ q = 1 ∨ p = 1 ∧ c = '+' ∧ q = 2 := by
    intro p c q
    simp only [signs, Automaton.mem_edges_ofLists, List.mem_cons, List.not_mem_nil, Prod.mk.injEq]
    grind
  have hstuck : ∀ word, ¬ signs.AcceptsFrom 2 word := by
    intro word h
    cases word with
    | nil => simp [Automaton.acceptsFrom_nil, signs] at h
    | cons c word => simp [Automaton.acceptsFrom_cons, hedges] at h
  have hsign : ∀ word, signs.AcceptsFrom 1 word → word = [] := by
    intro word h
    cases word with
    | nil => rfl
    | cons c word =>
      obtain ⟨p, he, h⟩ := Automaton.acceptsFrom_cons.1 h
      obtain ⟨-, rfl⟩ : c = '+' ∧ p = 2 := by simpa [hedges] using he
      exact absurd h (hstuck word)
  have hshadowed : ∀ word, word ≠ [] → signs.Accepts word →
      Recognizes arithmetic.patterns word := by
    rintro word hne ⟨p, hp, h⟩
    obtain rfl : p = 0 := by simpa [signs] using hp
    cases word with
    | nil => exact absurd rfl hne
    | cons c word =>
      obtain ⟨q, he, h⟩ := Automaton.acceptsFrom_cons.1 h
      obtain ⟨hc, rfl⟩ : (c = '+' ∨ c = '-') ∧ q = 1 := by simpa [hedges] using he
      obtain rfl := hsign word h
      refine (recognizes_iff hne).2 ?_
      rcases hc with rfl | rfl
      · exact ⟨.plus, rfl⟩
      · exact ⟨.minus, rfl⟩
  exact ⟨hshadowed, shadowed_pattern_inert arithmetic .num signs true hshadowed "-++.5"⟩

end Lexer

end Reckoner
