import Reckoner.Automaton.Path

/-! The simulation of an automaton follows its paths. Once no state is live, characters change
nothing, so the early stop of `run` leaves the automaton as the whole word would. -/

namespace Reckoner.Automaton

variable {a : Automaton}

theorem apply_of_isDead (h : a.isDead = true) (c : Char) : a.apply c = a := by
  have same : (a.apply c).live = a.live := by
    refine SortedSet.ext fun q => ?_
    rw [mem_live_apply]
    constructor
    · rintro ⟨p, hp, _⟩
      exact absurd hp (isDead_iff.1 h p)
    · intro hq
      exact absurd hq (isDead_iff.1 h q)
  show { a with live := (a.apply c).live } = a
  rw [same]

theorem applyAll_of_isDead (h : a.isDead = true) (word : List Char) : a.applyAll word = a := by
  induction word with
  | nil => rfl
  | cons c word ih => rw [applyAll_cons, apply_of_isDead h, ih]

theorem accepts_of_isDead (h : a.isDead = true) : a.accepts = false := by
  refine Bool.eq_false_iff.2 fun hacc => ?_
  obtain ⟨q, hq, _⟩ := accepts_iff.1 hacc
  exact isDead_iff.1 h q hq

theorem isDead_apply {c : Char} (h : ¬ a.canMove c = true) : (a.apply c).isDead = true :=
  isDead_iff.2 fun q hq => h (canMove_iff_apply.2 ⟨q, hq⟩)

/-- An automaton that cannot move on a character accepts nothing that begins with it. -/
theorem accepts_applyAll_of_not_canMove {c : Char} (h : ¬ a.canMove c = true)
    (word : List Char) : (a.applyAll (c :: word)).accepts = false := by
  rw [applyAll_cons, applyAll_of_isDead (isDead_apply h), accepts_of_isDead (isDead_apply h)]

/-- The early stop of a run does not show: the automaton is left as after the whole word. -/
theorem run_eq (a : Automaton) (word : List Char) :
    a.run word = (a.applyAll word, (a.applyAll word).accepts) := by
  induction word generalizing a with
  | nil => rfl
  | cons c word ih =>
    by_cases h : a.isDead = true
    · rw [run, if_pos h, applyAll_of_isDead h, accepts_of_isDead h]
    · rw [run, if_neg h, ih, applyAll_cons]

/-- After a reset and the characters of a word, the live states are those that a path with the
word's labels reaches from a start state. A word matches if one of them is an accept state, and
matching it leaves the automaton as the characters do. -/
theorem simulation_follows_paths (a : Automaton) (word : List Char) :
    (∀ q, q ∈ (a.reset.applyAll word).live ↔ ∃ p ∈ a.start, Path a p word q) ∧
    ((a.matchWord word).2 = true ↔ ∃ q ∈ (a.reset.applyAll word).live, q ∈ a.accept) ∧
    (a.matchWord word).1 = a.reset.applyAll word := by
  refine ⟨fun q => mem_live_applyAll_reset, ?_, ?_⟩
  · rw [matchWord, run_eq, accepts_iff, accept_applyAll, accept_reset]
  · rw [matchWord, run_eq]

end Reckoner.Automaton
