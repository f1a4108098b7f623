import Reckoner.Automaton.Basic

/-! The paths of an automaton and the words that it accepts, both without regard to its live states.
The states that are live after a word are those that a path with the labels of the word reaches from
a live state, `mem_live_applyAll`. -/

namespace Reckoner.Automaton

/-- A path of `a` from one state to another, whose labels spell the word. -/
inductive Path (a : Automaton) : StateId → List Char → StateId → Prop
  | nil (q : StateId) : Path a q [] q
  | cons {p q r : StateId} {c : Char} {word : List Char} :
      ⟨p, c, q⟩ ∈ a.edges → Path a q word r → Path a p (c :: word) r

/-- A path from a start state to an accept state spells the word. -/
def Accepts (a : Automaton) (word : List Char) : Prop :=
  ∃ p ∈ a.start, ∃ q ∈ a.accept, Path a p word q

/-- A path from `q` to an accept state spells the word. -/
def AcceptsFrom (a : Automaton) (q : StateId) (word : List Char) : Prop :=
  ∃ r ∈ a.accept, Path a q word r

theorem accepts_iff_acceptsFrom {a : Automaton} {word : List Char} :
    a.Accepts word ↔ ∃ q ∈ a.start, a.AcceptsFrom q word := Iff.rfl

theorem acceptsFrom_nil {a : Automaton} {q : StateId} : a.AcceptsFrom q [] ↔ q ∈ a.accept := by
  constructor
  · rintro ⟨r, hr, path⟩
    cases path
    exact hr
  · intro hq
    exact ⟨q, hq, .nil q⟩

theorem acceptsFrom_cons {a : Automaton} {q : StateId} {c : Char} {word : List Char} :
    a.AcceptsFrom q (c :: word) ↔ ∃ p, ⟨q, c, p⟩ ∈ a.edges ∧ a.AcceptsFrom p word := by
  constructor
  · rintro ⟨r, hr, path⟩
    cases path with
    | cons he path => exact ⟨_, he, r, hr, path⟩
  · rintro ⟨p, he, r, hr, path⟩
    exact ⟨r, hr, .cons he path⟩

/-- Applies the characters of a word in turn. -/
def applyAll (a : Automaton) (word : List Char) : Automaton := word.foldl apply a

@[simp] theorem applyAll_nil (a : Automaton) : a.applyAll [] = a := rfl

@[simp] theorem applyAll_cons (a : Automaton) (c : Char) (word : List Char) :
    a.applyAll (c :: word) = (a.apply c).applyAll word := rfl

@[simp] theorem accept_applyAll (a : Automaton) (word : List Char) :
    (a.applyAll word).accept = a.accept := by
  induction word generalizing a with
  | nil => rfl
  | cons c word ih => rw [applyAll_cons, ih, accept_apply]

theorem applyAll_append (a : Automaton) (word more : List Char) :
    a.applyAll (word ++ more) = (a.applyAll word).applyAll more := List.foldl_append

/-- Only the edges matter for paths. -/
theorem Path.of_edges {a b : Automaton} (h : a.edges = b.edges) {p q : StateId} {word : List Char}
    (path : Path a p word q) : Path b p word q := by
  induction path with
  | nil q => exact .nil q
  | cons he _ ih => exact .cons (h ▸ he) ih

theorem path_apply {a : Automaton} {c : Char} {p q : StateId} {word : List Char} :
    Path (a.apply c) p word q ↔ Path a p word q :=
  ⟨Path.of_edges (edges_apply a c), Path.of_edges (edges_apply a c).symm⟩

theorem mem_live_applyAll {a : Automaton} {word : List Char} {q : StateId} :
    q ∈ (a.applyAll word).live ↔ ∃ p ∈ a.live, Path a p word q := by
  induction word generalizing a with
  | nil =>
    constructor
    · intro h
      exact ⟨q, h, .nil q⟩
    · rintro ⟨p, hp, path⟩
      cases path
      exact hp
  | cons c word ih =>
    rw [applyAll_cons, ih]
    constructor
    · rintro ⟨p, hp, path⟩
      obtain ⟨o, ho, he⟩ := mem_live_apply.1 hp
      exact ⟨o, ho, .cons he (path_apply.1 path)⟩
    · rintro ⟨o, ho, path⟩
      cases path with
      | cons he path => exact ⟨_, mem_live_apply.2 ⟨o, ho, he⟩, path_apply.2 path⟩

/-- After a reset and a word, the states are live that the word leads to from a start state. -/
theorem mem_live_applyAll_reset {a : Automaton} {word : List Char} {q : StateId} :
    q ∈ (a.reset.applyAll word).live ↔ ∃ p ∈ a.start, Path a p word q := by
  rw [mem_live_applyAll, live_reset]
  constructor
  · rintro ⟨p, hp, path⟩
    exact ⟨p, hp, path.of_edges (edges_reset a)⟩
  · rintro ⟨p, hp, path⟩
    exact ⟨p, hp, path.of_edges (edges_reset a).symm⟩

/-- After a reset and a word, an accept state is live exactly if the word is accepted. -/
theorem accepts_applyAll_reset {a : Automaton} {word : List Char} :
    (a.reset.applyAll word).accepts = true ↔ a.Accepts word := by
  rw [accepts_iff, accept_applyAll, accept_reset]
  constructor
  · rintro ⟨q, hq, ha⟩
    obtain ⟨p, hp, path⟩ := mem_live_applyAll_reset.1 hq
    exact ⟨p, hp, q, ha, path⟩
  · rintro ⟨p, hp, q, ha, path⟩
    exact ⟨q, mem_live_applyAll_reset.2 ⟨p, hp, path⟩, ha⟩

end Reckoner.Automaton
