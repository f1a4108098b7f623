import Reckoner.Automaton.Path
import Reckoner.Lexer.Basic

/-! Maximal munch as a relation between a text and its pieces, without regard to how a lexer finds
them. Each piece is the longest non-empty prefix of what remains that some pattern accepts, and has
the kind of the first pattern that accepts it. The pieces are determined by the text if no pattern
accepts a prefix of what they leave, `Munched.unique`. -/

namespace Reckoner.Lexer

variable {κ : Type} {patterns : List (Pattern κ)}

/-- Some pattern accepts the word. -/
def Recognizes (patterns : List (Pattern κ)) (word : List Char) : Prop :=
  ∃ p ∈ patterns, p.automaton.Accepts word

/-- `p` is the pattern of the lowest index that accepts the word. -/
def First (patterns : List (Pattern κ)) (word : List Char) (p : Pattern κ) : Prop :=
  ∃ i : Nat, patterns[i]? = some p ∧ p.automaton.Accepts word ∧
    ∀ (j : Nat) (q : Pattern κ), j < i → patterns[j]? = some q → ¬ q.automaton.Accepts word

/-- `word` is the longest non-empty prefix of `cs` that some pattern accepts. -/
structure Longest (patterns : List (Pattern κ)) (cs word : List Char) : Prop where
  ne_nil : word ≠ []
  begins : word <+: cs
  recognized : Recognizes patterns word
  longest : ∀ other, other <+: cs → Recognizes patterns other → other.length ≤ word.length

/-- No pattern accepts a non-empty prefix of `cs`. -/
def Stuck (patterns : List (Pattern κ)) (cs : List Char) : Prop :=
  ∀ word, word ≠ [] → word <+: cs → ¬ Recognizes patterns word

/-- The words of pieces, one after the other. -/
def spell (pieces : List (κ × List Char)) : List Char := pieces.flatMap Prod.snd

/-- Maximal munch cuts the pieces, in order, from a text that goes on with `rest` after them. -/
inductive Munched (patterns : List (Pattern κ)) (rest : List Char) : List (κ × List Char) → Prop
  | nil : Munched patterns rest []
  | cons {p : Pattern κ} {word : List Char} {pieces : List (κ × List Char)} :
      Longest patterns (word ++ (spell pieces ++ rest)) word → First patterns word p →
      Munched patterns rest pieces → Munched patterns rest ((p.kind, word) :: pieces)

@[simp] theorem spell_nil : spell ([] : List (κ × List Char)) = [] := rfl

@[simp] theorem spell_cons (kind : κ) (word : List Char) (pieces : List (κ × List Char)) :
    spell ((kind, word) :: pieces) = word ++ spell pieces := rfl

theorem stuck_nil : Stuck patterns [] :=
  fun _ hne hbegins => absurd (List.prefix_nil.1 hbegins) hne

theorem Stuck.not_longest {cs word : List Char} (h : Stuck patterns cs) :
    ¬ Longest patterns cs word :=
  fun hl => h word hl.ne_nil hl.begins hl.recognized

theorem Longest.unique {cs word word' : List Char} (h : Longest patterns cs word)
    (h' : Longest patterns cs word') : word = word' := by
  have hle := h'.longest word h.begins h.recognized
  have hge := h.longest word' h'.begins h'.recognized
  exact (List.prefix_of_prefix_length_le h.begins h'.begins hle).eq_of_length (by omega)

theorem First.unique {word : List Char} {p q : Pattern κ} (hp : First patterns word p)
    (hq : First patterns word q) : p = q := by
  obtain ⟨i, hi, hpa, hpf⟩ := hp
  obtain ⟨j, hj, hqa, hqf⟩ := hq
  rcases Nat.lt_trichotomy i j with hlt | rfl | hlt
  · exact absurd hpa (hqf i p hlt hi)
  · exact Option.some.inj (hi.symm.trans hj)
  · exact absurd hqa (hpf j q hlt hj)

theorem Recognizes.exists_first {word : List Char} (h : Recognizes patterns word) :
    ∃ p, First patterns word p := by
  induction patterns with
  | nil =>
    obtain ⟨p, hp, _⟩ := h
    cases hp
  | cons q qs ih =>
    by_cases hq : q.automaton.Accepts word
    · exact ⟨q, 0, rfl, hq, fun j _ hj => absurd hj (Nat.not_lt_zero j)⟩
    · obtain ⟨p, hp, hacc⟩ := h
      rcases List.mem_cons.1 hp with rfl | hp
      · exact absurd hacc hq
      obtain ⟨p, i, hi, hacc, hbefore⟩ := ih ⟨p, hp, hacc⟩
      refine ⟨p, i + 1, hi, hacc, fun j r hj hr => ?_⟩
      cases j with
      | zero =>
        obtain rfl : q = r := Option.some.inj hr
        exact hq
      | succ j => exact hbefore j r (Nat.lt_of_succ_lt_succ hj) hr

theorem Munched.word_ne_nil {rest : List Char} {pieces : List (κ × List Char)}
    (h : Munched patterns rest pieces) :
    ∀ piece ∈ pieces, piece.2 ≠ [] := by
  induction h with
  | nil => exact fun _ hmem => absurd hmem List.not_mem_nil
  | cons hlongest _ _ ih => exact List.forall_mem_cons.2 ⟨hlongest.ne_nil, ih⟩

theorem Munched.unique {rest rest' : List Char} {pieces pieces' : List (κ × List Char)}
    (h : Munched patterns rest pieces) (h' : Munched patterns rest' pieces')
    (hs : Stuck patterns rest) (hs' : Stuck patterns rest')
    (htext : spell pieces ++ rest = spell pieces' ++ rest') : pieces = pieces' ∧ rest = rest' := by
  induction h generalizing pieces' with
  | nil =>
    cases h' with
    | nil => exact ⟨rfl, htext⟩
    | cons hl _ _ =>
      rw [spell_nil, List.nil_append, spell_cons, List.append_assoc] at htext
      exact absurd hl (htext ▸ hs).not_longest
  | cons hl hf _ ih =>
    cases h' with
    | nil =>
      rw [spell_nil, List.nil_append, spell_cons, List.append_assoc] at htext
      exact absurd hl (htext ▸ hs').not_longest
    | cons hl' hf' h' =>
      simp only [spell_cons, List.append_assoc] at htext
      have hword := hl.unique (htext ▸ hl')
      subst hword
      obtain ⟨hpieces, hrest⟩ := ih h' (List.append_cancel_left htext)
      rw [hf.unique hf', hpieces]
      exact ⟨rfl, hrest⟩

end Reckoner.Lexer
