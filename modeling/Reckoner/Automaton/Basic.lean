import Reckoner.SortedSet

/-! Nondeterministic finite automata over characters, without empty moves, and their simulation. An
automaton carries the set of its live states: `reset` makes the start states live, `apply` moves
every live state along the edges with one label, and states without such an edge drop out. -/

namespace Reckoner

/-- A state of an automaton. -/
abbrev StateId := UInt32

instance : Keyed StateId where
  key := UInt32.toNat
  key_injective _ _ := UInt32.toNat_inj.1

/-- A move from `source` to `target` on the character `label`. -/
structure Edge where
  source : StateId
  label : Char
  target : StateId
  deriving DecidableEq

namespace Edge

/-- Edges are ordered by source, then label, then target. -/
def key (e : Edge) : Nat :=
  (e.source.toNat * UInt32.size + e.label.toNat) * UInt32.size + e.target.toNat

theorem key_injective (e f : Edge) (h : e.key = f.key) : e = f := by
  obtain ⟨s, l, t⟩ := e
  obtain ⟨s', l', t'⟩ := f
  have hl := l.val.toNat_lt
  have hl' := l'.val.toNat_lt
  have ht := t.toNat_lt
  have ht' := t'.toNat_lt
  simp only [key, Char.toNat, UInt32.size] at h
  have h1 : s.toNat = s'.toNat := by omega
  have h2 : l.val.toNat = l'.val.toNat := by omega
  have h3 : t.toNat = t'.toNat := by omega
  rw [UInt32.toNat_inj] at h1 h2 h3
  rw [h1, h3, Char.ext h2]

instance : Keyed Edge := ⟨key, key_injective⟩

end Edge

structure Automaton where
  /-- The states named so far, by themselves or as an end of an edge. -/
  states : SortedSet StateId := ∅
  start : SortedSet StateId := ∅
  accept : SortedSet StateId := ∅
  edges : SortedSet Edge := ∅
  live : SortedSet StateId := ∅
  deriving DecidableEq

namespace Automaton

def empty : Automaton := {}

/-- Names a state, and marks it as a start or accept state where a flag says so. A mark stays. -/
def addState (a : Automaton) (q : StateId) (start accept : Bool) : Automaton :=
  { a with
    states := a.states.insert q
    start := if start then a.start.insert q else a.start
    accept := if accept then a.accept.insert q else a.accept }

/-- Adds an edge and names both its ends. -/
def addEdge (a : Automaton) (source : StateId) (label : Char) (target : StateId) :
    Automaton :=
  { a with
    states := (a.states.insert source).insert target
    edges := a.edges.insert ⟨source, label, target⟩ }

/-- Makes exactly the start states live. -/
def reset (a : Automaton) : Automaton := { a with live := a.start }

/-- The states that the states in `from` reach on `c`. -/
def successors (a : Automaton) (sources : SortedSet StateId) (c : Char) : SortedSet StateId :=
  .ofList ((a.edges.toList.filter fun e => e.label = c && sources.contains e.source).map Edge.target)

/-- Moves every live state along the edges labelled `c`. -/
def apply (a : Automaton) (c : Char) : Automaton := { a with live := a.successors a.live c }

/-- Whether some live state is an accept state. -/
def accepts (a : Automaton) : Bool := a.live.any a.accept.contains

/-- Whether some live state has an edge labelled `c`. -/
def canMove (a : Automaton) (c : Char) : Bool :=
  a.edges.any fun e => e.label = c && a.live.contains e.source

def isDead (a : Automaton) : Bool := a.live.isEmpty

/-- Applies the characters in turn, up to the first at which no state is live. The automaton
accepts if the characters do not run out of live states and an accept state is live at the end. -/
def run (a : Automaton) : List Char → Automaton × Bool
  | [] => (a, a.accepts)
  | c :: cs => if a.isDead then (a, false) else (a.apply c).run cs

/-- Whether the automaton accepts `word` from its start states, and the live states after it. -/
def matchWord (a : Automaton) (word : List Char) : Automaton × Bool := a.reset.run word

/-- The pairs of a source and a label that have an edge, in ascending order. -/
def moves (a : Automaton) : List (StateId × Char) :=
  (a.edges.toList.map fun e => (e.source, e.label)).eraseDups

/-- The number of pairs of a state and a character with an edge. -/
def moveCount (a : Automaton) : Nat := a.moves.length

/-- An automaton from states with their two marks, then edges. -/
def ofLists (states : List (StateId × Bool × Bool)) (edges : List (StateId × Char × StateId)) :
    Automaton :=
  let named := states.foldl (fun a (q, start, accept) => a.addState q start accept) empty
  edges.foldl (fun a (source, label, target) => a.addEdge source label target) named

theorem edges_foldl_addState (states : List (StateId × Bool × Bool)) (a : Automaton) :
    (states.foldl (fun a (q, start, accept) => a.addState q start accept) a).edges = a.edges := by
  induction states generalizing a with
  | nil => rfl
  | cons state states ih => rw [List.foldl_cons, ih]; rfl

theorem marks_foldl_addEdge (edges : List (StateId × Char × StateId)) (a : Automaton) :
    let linked := edges.foldl (fun a (source, label, target) => a.addEdge source label target) a
    linked.start = a.start ∧ linked.accept = a.accept := by
  induction edges generalizing a with
  | nil => exact ⟨rfl, rfl⟩
  | cons edge edges ih => exact ih (a.addEdge edge.1 edge.2.1 edge.2.2)

theorem mem_edges_foldl_addEdge {edges : List (StateId × Char × StateId)} {a : Automaton}
    {e : Edge} :
    e ∈ (edges.foldl (fun a (source, label, target) => a.addEdge source label target) a).edges ↔
      (e.source, e.label, e.target) ∈ edges ∨ e ∈ a.edges := by
  induction edges generalizing a with
  | nil => simp
  | cons edge edges ih =>
    obtain ⟨p, c, q⟩ := edge
    obtain ⟨source, label, target⟩ := e
    rw [List.foldl_cons, ih]
    simp [addEdge, or_assoc, or_left_comm]

theorem mem_start_foldl_addState {states : List (StateId × Bool × Bool)} {a : Automaton}
    {q : StateId} :
    q ∈ (states.foldl (fun a (q, start, accept) => a.addState q start accept) a).start ↔
      (∃ accept, (q, true, accept) ∈ states) ∨ q ∈ a.start := by
  induction states generalizing a with
  | nil => simp
  | cons state states ih =>
    obtain ⟨p, start, accept⟩ := state
    rw [List.foldl_cons, ih]
    cases start <;> simp [addState, exists_or, or_assoc, or_left_comm]

theorem mem_accept_foldl_addState {states : List (StateId × Bool × Bool)} {a : Automaton}
    {q : StateId} :
    q ∈ (states.foldl (fun a (q, start, accept) => a.addState q start accept) a).accept ↔
      (∃ start, (q, start, true) ∈ states) ∨ q ∈ a.accept := by
  induction states generalizing a with
  | nil => simp
  | cons state states ih =>
    obtain ⟨p, start, accept⟩ := state
    rw [List.foldl_cons, ih]
    cases accept <;> simp [addState, exists_or, or_assoc, or_left_comm]

@[simp] theorem mem_edges_ofLists {states : List (StateId × Bool × Bool)}
    {edges : List (StateId × Char × StateId)} {e : Edge} :
    e ∈ (ofLists states edges).edges ↔ (e.source, e.label, e.target) ∈ edges := by
  rw [ofLists, mem_edges_foldl_addEdge, edges_foldl_addState]
  exact or_iff_left (SortedSet.not_mem_empty e)

@[simp] theorem mem_start_ofLists {states : List (StateId × Bool × Bool)}
    {edges : List (StateId × Char × StateId)} {q : StateId} :
    q ∈ (ofLists states edges).start ↔ ∃ accept, (q, true, accept) ∈ states := by
  rw [ofLists, (marks_foldl_addEdge _ _).1, mem_start_foldl_addState]
  exact or_iff_left (SortedSet.not_mem_empty q)

@[simp] theorem mem_accept_ofLists {states : List (StateId × Bool × Bool)}
    {edges : List (StateId × Char × StateId)} {q : StateId} :
    q ∈ (ofLists states edges).accept ↔ ∃ start, (q, start, true) ∈ states := by
  rw [ofLists, (marks_foldl_addEdge _ _).2, mem_accept_foldl_addState]
  exact or_iff_left (SortedSet.not_mem_empty q)

@[simp] theorem live_reset (a : Automaton) : a.reset.live = a.start := rfl

@[simp] theorem edges_reset (a : Automaton) : a.reset.edges = a.edges := rfl

@[simp] theorem edges_apply (a : Automaton) (c : Char) : (a.apply c).edges = a.edges := rfl

@[simp] theorem accept_reset (a : Automaton) : a.reset.accept = a.accept := rfl

@[simp] theorem accept_apply (a : Automaton) (c : Char) : (a.apply c).accept = a.accept := rfl

@[simp] theorem reset_reset (a : Automaton) : a.reset.reset = a.reset := rfl

@[simp] theorem reset_apply (a : Automaton) (c : Char) : (a.apply c).reset = a.reset := rfl

/-- The successors are the targets of the edges from the sources. -/
theorem mem_successors {a : Automaton} {sources : SortedSet StateId} {c : Char} {q : StateId} :
    q ∈ a.successors sources c ↔ ∃ p ∈ sources, ⟨p, c, q⟩ ∈ a.edges := by
  simp only [successors, SortedSet.mem_ofList, List.mem_map, List.mem_filter, Bool.and_eq_true,
    decide_eq_true_eq, SortedSet.contains_iff]
  constructor
  · rintro ⟨⟨p, l, t⟩, ⟨he, rfl, hp⟩, rfl⟩
    exact ⟨p, hp, he⟩
  · rintro ⟨p, hp, he⟩
    exact ⟨⟨p, c, q⟩, ⟨he, rfl, hp⟩, rfl⟩

theorem mem_live_apply {a : Automaton} {c : Char} {q : StateId} :
    q ∈ (a.apply c).live ↔ ∃ p ∈ a.live, ⟨p, c, q⟩ ∈ a.edges :=
  mem_successors

theorem accepts_iff {a : Automaton} : a.accepts = true ↔ ∃ q ∈ a.live, q ∈ a.accept := by
  simp [accepts]

theorem isDead_iff {a : Automaton} : a.isDead = true ↔ ∀ q, ¬ q ∈ a.live := by
  simp [isDead]

theorem canMove_iff {a : Automaton} {c : Char} :
    a.canMove c = true ↔ ∃ p ∈ a.live, ∃ q, (⟨p, c, q⟩ : Edge) ∈ a.edges := by
  simp only [canMove, SortedSet.any_iff, Bool.and_eq_true, decide_eq_true_eq,
    SortedSet.contains_iff]
  constructor
  · rintro ⟨⟨p, l, q⟩, he, rfl, hp⟩
    exact ⟨p, hp, q, he⟩
  · rintro ⟨p, hp, q, he⟩
    exact ⟨⟨p, c, q⟩, he, rfl, hp⟩

/-- An automaton can move on a character exactly if states are live after it. -/
theorem canMove_iff_apply {a : Automaton} {c : Char} :
    a.canMove c = true ↔ ∃ q, q ∈ (a.apply c).live := by
  simp only [canMove_iff, mem_live_apply]
  constructor
  · rintro ⟨p, hp, q, he⟩
    exact ⟨q, p, hp, he⟩
  · rintro ⟨q, p, hp, he⟩
    exact ⟨p, hp, q, he⟩

theorem mem_moves {a : Automaton} {p : StateId} {c : Char} :
    (p, c) ∈ a.moves ↔ ∃ q, (⟨p, c, q⟩ : Edge) ∈ a.edges := by
  rw [moves, List.mem_eraseDups, List.mem_map]
  constructor
  · rintro ⟨⟨_, _, q⟩, he, hpair⟩
    cases hpair
    exact ⟨q, he⟩
  · rintro ⟨q, he⟩
    exact ⟨⟨p, c, q⟩, he, rfl⟩

theorem nodup_eraseDups {α : Type} [BEq α] [LawfulBEq α] (l : List α) : l.eraseDups.Nodup := by
  -- The list that is left after the first element is a filter of the tail, not the tail.
  induction h : l.length using Nat.strongRecOn generalizing l with
  | ind n ih =>
    cases l with
    | nil => exact .nil
    | cons a l =>
      rw [List.eraseDups_cons]
      refine List.nodup_cons.2 ⟨by simp, ih _ ?_ _ rfl⟩
      have hfilter := List.length_filter_le (fun b => !b == a) l
      rw [List.length_cons] at h
      omega

theorem nodup_moves (a : Automaton) : a.moves.Nodup := nodup_eraseDups _

end Automaton

end Reckoner
