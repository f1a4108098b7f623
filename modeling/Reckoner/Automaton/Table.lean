import Mathlib.Data.List.AList
import Reckoner.Automaton.Basic

/-! An automaton whose edges are kept in rows, one for each pair of a source and a label, and found by
look-up. A pair may have no row, and nothing in the type keeps a row from being empty. The look-ups
do as the edges say: every operation commutes with `toAutomaton`. -/

namespace Reckoner.Automaton

structure Table where
  states : SortedSet StateId := ∅
  start : SortedSet StateId := ∅
  accept : SortedSet StateId := ∅
  /-- The targets of the pairs of a source and a label. -/
  rows : AList fun _ : StateId × Char => SortedSet StateId := ∅
  live : SortedSet StateId := ∅

namespace Table

def empty : Table := {}

def addState (t : Table) (q : StateId) (start accept : Bool) : Table :=
  { t with
    states := t.states.insert q
    start := if start then t.start.insert q else t.start
    accept := if accept then t.accept.insert q else t.accept }

/-- The row of a pair, or an empty one. -/
def targets (t : Table) (p : StateId) (c : Char) : SortedSet StateId :=
  (t.rows.lookup (p, c)).getD ∅

/-- Adds a target to the row of a source and a label, and begins the row if there is none. -/
def addEdge (t : Table) (source : StateId) (label : Char) (target : StateId) : Table :=
  { t with
    states := (t.states.insert source).insert target
    rows := t.rows.insert (source, label) ((t.targets source label).insert target) }

def reset (t : Table) : Table := { t with live := t.start }

/-- Replaces the live states by the members of their rows. A state without a row drops out. -/
def apply (t : Table) (c : Char) : Table :=
  let found := t.live.toList.filterMap fun p => t.rows.lookup (p, c)
  { t with live := .ofList (found.flatMap SortedSet.toList) }

def accepts (t : Table) : Bool := t.live.any t.accept.contains

/-- Whether some live state has a row that is not empty. -/
def canMove (t : Table) (c : Char) : Bool :=
  t.live.any fun p => (t.rows.lookup (p, c)).any fun row => !row.isEmpty

def isDead (t : Table) : Bool := t.live.isEmpty

def run (t : Table) : List Char → Table × Bool
  | [] => (t, t.accepts)
  | c :: cs => if t.isDead then (t, false) else (t.apply c).run cs

def matchWord (t : Table) (word : List Char) : Table × Bool := t.reset.run word

/-- Whether two tables have as many rows, and each row of the first is found in the second. -/
def rowsEqual (t u : Table) : Bool :=
  t.rows.keys.length = u.rows.keys.length &&
    t.rows.entries.all fun ⟨pair, row⟩ => u.rows.lookup pair = some row

/-- Whether two tables have the same sets and the same rows, in whatever order the rows were begun. -/
def equals (t u : Table) : Bool :=
  t.states = u.states && t.start = u.start && t.accept = u.accept && t.rowsEqual u && t.live = u.live

variable {t : Table} {c : Char}

theorem mem_targets {p q : StateId} :
    q ∈ t.targets p c ↔ ∃ row, t.rows.lookup (p, c) = some row ∧ q ∈ row := by
  unfold targets
  cases t.rows.lookup (p, c) <;> simp

theorem lookup_rows_addEdge (t : Table) (p : StateId) (c : Char) (q : StateId)
    (pair : StateId × Char) :
    (t.addEdge p c q).rows.lookup pair =
      if pair = (p, c) then some ((t.targets p c).insert q) else t.rows.lookup pair := by
  split
  next h => rw [h, addEdge, AList.lookup_insert]
  next h => rw [addEdge, AList.lookup_insert_ne h]

theorem targets_addEdge (t : Table) (p : StateId) (c : Char) (q : StateId) (source : StateId)
    (label : Char) :
    (t.addEdge p c q).targets source label =
      if (source, label) = (p, c) then (t.targets p c).insert q else t.targets source label := by
  rw [targets, lookup_rows_addEdge]
  split <;> rfl

theorem mem_live_apply {q : StateId} :
    q ∈ (t.apply c).live ↔ ∃ p ∈ t.live, q ∈ t.targets p c := by
  simp only [apply, SortedSet.mem_ofList, List.mem_flatMap, List.mem_filterMap, mem_targets]
  constructor
  · rintro ⟨row, ⟨p, hp, hrow⟩, hq⟩
    exact ⟨p, hp, row, hrow, hq⟩
  · rintro ⟨p, hp, row, hrow, hq⟩
    exact ⟨row, ⟨p, hp, hrow⟩, hq⟩

theorem canMove_iff : t.canMove c = true ↔ ∃ p ∈ t.live, ∃ q, q ∈ t.targets p c := by
  have hrow : ∀ p, (t.rows.lookup (p, c)).any (fun row => !row.isEmpty) = true ↔
      ∃ q, q ∈ t.targets p c := by
    intro p
    unfold targets
    cases t.rows.lookup (p, c) with
    | none => simp
    | some row => simp [← Bool.not_eq_true]
  simp only [canMove, SortedSet.any_iff, hrow]

/-- As many rows, each found in the other table, are the same rows: no key is left over. -/
theorem rowsEqual_iff {u : Table} :
    t.rowsEqual u = true ↔ ∀ pair, t.rows.lookup pair = u.rows.lookup pair := by
  have hfound : (t.rows.entries.all fun ⟨pair, row⟩ => u.rows.lookup pair = some row) = true ↔
      ∀ pair row, t.rows.lookup pair = some row → u.rows.lookup pair = some row := by
    rw [List.all_eq_true]
    constructor
    · intro h pair row hrow
      exact of_decide_eq_true (h ⟨pair, row⟩ (AList.mem_lookup_iff.1 hrow))
    · rintro h ⟨pair, row⟩ hrow
      exact decide_eq_true (h pair row (AList.mem_lookup_iff.2 hrow))
  have hkey : ∀ (t : Table) pair, pair ∈ t.rows.keys ↔ ∃ row, t.rows.lookup pair = some row := by
    intro t pair
    rw [← AList.mem_keys, ← AList.lookup_isSome, Option.isSome_iff_exists]
  rw [rowsEqual, Bool.and_eq_true, decide_eq_true_eq, hfound]
  constructor
  · rintro ⟨hlength, h⟩ pair
    have hsub : t.rows.keys ⊆ u.rows.keys := by
      intro pair hpair
      obtain ⟨row, hrow⟩ := (hkey t pair).1 hpair
      exact (hkey u pair).2 ⟨row, h pair row hrow⟩
    have hperm : t.rows.keys.Perm u.rows.keys :=
      (List.subperm_of_subset t.rows.keys_nodup hsub).perm_of_length_le (Nat.le_of_eq hlength.symm)
    refine Option.ext fun row => ⟨h pair row, fun hrow => ?_⟩
    obtain ⟨row', hrow'⟩ := (hkey t pair).1 (hperm.mem_iff.2 ((hkey u pair).2 ⟨row, hrow⟩))
    have hsame : row' = row := Option.some.inj ((h pair row' hrow').symm.trans hrow)
    exact hsame ▸ hrow'
  · intro h
    refine ⟨List.Perm.length_eq ?_, fun pair row hrow => (h pair).symm.trans hrow⟩
    refine (List.perm_ext_iff_of_nodup t.rows.keys_nodup u.rows.keys_nodup).2 fun pair => ?_
    rw [hkey, hkey, h]

theorem equals_iff {u : Table} :
    t.equals u = true ↔ t.states = u.states ∧ t.start = u.start ∧ t.accept = u.accept ∧
      (∀ pair, t.rows.lookup pair = u.rows.lookup pair) ∧ t.live = u.live := by
  simp only [equals, Bool.and_eq_true, decide_eq_true_eq, rowsEqual_iff, and_assoc]

/-- The automaton with an edge for every member of a row. -/
def toAutomaton (t : Table) : Automaton where
  states := t.states
  start := t.start
  accept := t.accept
  edges := .ofList (t.rows.entries.flatMap fun ⟨(p, c), row⟩ => row.toList.map (Edge.mk p c))
  live := t.live

theorem mem_edges_toAutomaton {e : Edge} :
    e ∈ t.toAutomaton.edges ↔ e.target ∈ t.targets e.source e.label := by
  obtain ⟨p, c, q⟩ := e
  simp only [toAutomaton, SortedSet.mem_ofList, List.mem_flatMap, List.mem_map, mem_targets]
  constructor
  · rintro ⟨⟨pair, row⟩, hrow, target, hq, hedge⟩
    cases hedge
    exact ⟨row, AList.mem_lookup_iff.2 hrow, hq⟩
  · rintro ⟨row, hrow, hq⟩
    exact ⟨⟨(p, c), row⟩, AList.mem_lookup_iff.1 hrow, q, hq, rfl⟩

theorem toAutomaton_addEdge (t : Table) (p : StateId) (c : Char) (q : StateId) :
    (t.addEdge p c q).toAutomaton = t.toAutomaton.addEdge p c q := by
  have hedges : (t.addEdge p c q).toAutomaton.edges = (t.toAutomaton.addEdge p c q).edges := by
    refine SortedSet.ext fun e => ?_
    obtain ⟨source, label, target⟩ := e
    rw [mem_edges_toAutomaton, targets_addEdge, Automaton.addEdge, SortedSet.mem_insert,
      mem_edges_toAutomaton]
    split
    next h =>
      cases h
      simp
    next h =>
      have hne : ¬ (⟨source, label, target⟩ : Edge) = ⟨p, c, q⟩ := by
        intro heq
        cases heq
        exact h rfl
      exact (or_iff_right hne).symm
  exact congrArg (fun edges => { (t.addEdge p c q).toAutomaton with edges }) hedges

theorem toAutomaton_apply (t : Table) (c : Char) :
    (t.apply c).toAutomaton = t.toAutomaton.apply c := by
  have hlive : (t.apply c).live = (t.toAutomaton.apply c).live := by
    refine SortedSet.ext fun q => ?_
    rw [mem_live_apply, Automaton.mem_live_apply]
    simp only [mem_edges_toAutomaton]
    rfl
  exact congrArg (fun live => { t.toAutomaton with live }) hlive

theorem canMove_toAutomaton (t : Table) (c : Char) : t.toAutomaton.canMove c = t.canMove c := by
  rw [Bool.eq_iff_iff, Automaton.canMove_iff, canMove_iff]
  simp only [mem_edges_toAutomaton]
  rfl

theorem run_toAutomaton (t : Table) (word : List Char) :
    t.toAutomaton.run word = ((t.run word).1.toAutomaton, (t.run word).2) := by
  induction word generalizing t with
  | nil => rfl
  | cons c word ih =>
    by_cases h : t.isDead = true
    · have hdead : t.toAutomaton.isDead = true := h
      rw [Automaton.run, if_pos hdead, run, if_pos h]
    · have hdead : ¬ t.toAutomaton.isDead = true := h
      rw [Automaton.run, if_neg hdead, run, if_neg h, ← toAutomaton_apply, ih]

end Table

end Reckoner.Automaton
