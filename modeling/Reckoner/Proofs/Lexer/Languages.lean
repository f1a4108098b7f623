import Reckoner.Automaton.Path
import Reckoner.Lexer.Arithmetic
import Reckoner.Lexer.Lexeme

/-! The automata of arithmetic accept the lexemes of their kinds. A word is followed from state to
state: what an automaton accepts from a state after a character is what it accepts from the states
that the character leads to. -/

namespace Reckoner

namespace Automaton

variable {c : Char} {word : List Char}

theorem mem_decimalDigits : c ∈ decimalDigits ↔ c.isDigit := by
  constructor
  · have hall : decimalDigits.all Char.isDigit = true := by decide
    exact List.all_eq_true.1 hall c
  · intro h
    have hdigit : ∀ n < 58, 48 ≤ n → Char.ofNat n ∈ decimalDigits := by decide
    obtain ⟨hzero, hnine⟩ : 48 ≤ c.toNat ∧ c.toNat ≤ 57 := Char.isDigit_iff_toNat.1 h
    have hc := hdigit c.toNat (Nat.lt_succ_of_le hnine) hzero
    rwa [Char.ofNat_toNat] at hc

/-- The digits lead to the integer part and to the fraction, and the point from one to the other. -/
theorem mem_edges_number {p q : StateId} :
    ⟨p, c, q⟩ ∈ number.edges ↔
      c.isDigit ∧ ((p = 0 ∨ p = 1) ∧ q = 1 ∨ (p = 2 ∨ p = 3) ∧ q = 3) ∨
        c = '.' ∧ (p = 0 ∨ p = 1) ∧ q = 2 := by
  simp only [number, mem_edges_ofLists, List.mem_append, List.mem_flatMap, List.mem_cons,
    List.not_mem_nil, or_false, Prod.mk.injEq, ← mem_decimalDigits]
  grind

theorem acceptsFrom_number_cons {q : StateId} :
    number.AcceptsFrom q (c :: word) ↔
      c.isDigit ∧ ((q = 0 ∨ q = 1) ∧ number.AcceptsFrom 1 word ∨
        (q = 2 ∨ q = 3) ∧ number.AcceptsFrom 3 word) ∨
      c = '.' ∧ (q = 0 ∨ q = 1) ∧ number.AcceptsFrom 2 word := by
  rw [acceptsFrom_cons]
  simp only [mem_edges_number]
  constructor
  · rintro ⟨p, ⟨hc, ⟨hq, rfl⟩ | ⟨hq, rfl⟩⟩ | ⟨hc, hq, rfl⟩, h⟩
    · exact .inl ⟨hc, .inl ⟨hq, h⟩⟩
    · exact .inl ⟨hc, .inr ⟨hq, h⟩⟩
    · exact .inr ⟨hc, hq, h⟩
  · rintro (⟨hc, ⟨hq, h⟩ | ⟨hq, h⟩⟩ | ⟨hc, hq, h⟩)
    · exact ⟨1, .inl ⟨hc, .inl ⟨hq, rfl⟩⟩, h⟩
    · exact ⟨3, .inl ⟨hc, .inr ⟨hq, rfl⟩⟩, h⟩
    · exact ⟨2, .inr ⟨hc, hq, rfl⟩, h⟩

theorem acceptsFrom_number_nil {q : StateId} : number.AcceptsFrom q [] ↔ q = 3 := by
  rw [acceptsFrom_nil, number, mem_accept_ofLists]
  simp

theorem acceptsFrom_fraction : number.AcceptsFrom 3 word ↔ ∀ c ∈ word, c.isDigit := by
  induction word with
  | nil => simp [acceptsFrom_number_nil]
  | cons c word ih => simp [acceptsFrom_number_cons, ih]

theorem acceptsFrom_point :
    number.AcceptsFrom 2 word ↔ word ≠ [] ∧ ∀ c ∈ word, c.isDigit := by
  cases word with
  | nil => simp [acceptsFrom_number_nil]
  | cons c word => simp [acceptsFrom_number_cons, acceptsFrom_fraction]

theorem acceptsFrom_integer : number.AcceptsFrom 1 word ↔ IsNumber word := by
  induction word with
  | nil =>
    have hempty : ¬ IsNumber [] := fun h => h.ne_nil rfl
    simp [acceptsFrom_number_nil, hempty]
  | cons c word ih => simp [acceptsFrom_number_cons, ih, acceptsFrom_point, isNumber_cons]

/-- A number begins with its integer part, or with the point. -/
theorem accepts_number : number.Accepts word ↔ IsNumber word := by
  have hstart : ∀ q, q ∈ number.start ↔ q = 0 := fun q => by simp [number]
  have hzero : number.AcceptsFrom 0 word ↔ number.AcceptsFrom 1 word := by
    cases word with
    | nil => simp [acceptsFrom_number_nil]
    | cons c word => simp [acceptsFrom_number_cons]
  simp only [accepts_iff_acceptsFrom, hstart, exists_eq_left, hzero, acceptsFrom_integer]

theorem accepts_single (d : Char) : (single d).Accepts word ↔ word = [d] := by
  have hend : ∀ word, (single d).AcceptsFrom 1 word ↔ word = [] := by
    intro word
    cases word with
    | nil => simp [acceptsFrom_nil, single]
    | cons c word => simp [acceptsFrom_cons, single]
  have hstart : ∀ q, q ∈ (single d).start ↔ q = 0 := fun q => by simp [single]
  have hedges : ∀ p c q, ⟨p, c, q⟩ ∈ (single d).edges ↔ p = 0 ∧ c = d ∧ q = 1 := by simp [single]
  simp only [accepts_iff_acceptsFrom, hstart, exists_eq_left]
  cases word with
  | nil => simp [acceptsFrom_nil, single]
  | cons c word =>
    simp only [acceptsFrom_cons, hedges, true_and, List.cons.injEq]
    exact ⟨fun ⟨_, ⟨hc, hp⟩, h⟩ => ⟨hc, (hend word).1 (hp ▸ h)⟩,
      fun ⟨hc, h⟩ => ⟨1, ⟨hc, rfl⟩, (hend word).2 h⟩⟩

theorem mem_blankChars : c ∈ blankChars ↔ IsBlank c := Iff.rfl

theorem accepts_blanks : blanks.Accepts word ↔ ∀ c ∈ word, IsBlank c := by
  have hstart : ∀ q, q ∈ blanks.start ↔ q = 0 := fun q => by simp [blanks]
  have hedges : ∀ p c q, ⟨p, c, q⟩ ∈ blanks.edges ↔ IsBlank c ∧ p = 0 ∧ q = 0 := by
    simp only [blanks, mem_edges_ofLists, List.mem_map, Prod.mk.injEq, ← mem_blankChars]
    grind
  simp only [accepts_iff_acceptsFrom, hstart, exists_eq_left]
  induction word with
  | nil => simp [acceptsFrom_nil, blanks]
  | cons c word ih => simp [acceptsFrom_cons, hedges, and_assoc, ih]

end Automaton

end Reckoner
