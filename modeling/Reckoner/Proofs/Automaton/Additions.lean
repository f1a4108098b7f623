import Reckoner.Automaton.Addition

/-! Additions in any order. An addition puts states, marks and edges in and takes nothing out, so what an
automaton has in the end is what it had and what the additions bring, each of them once. -/

namespace Reckoner.Automaton

open Addition (Alike)

attribute [ext] Automaton

variable {as bs : List Addition}

theorem mem_states_addAll (a : Automaton) (as : List Addition) (q : StateId) :
    q ∈ (machine.addAll a as).states ↔ q ∈ as.flatMap Addition.states ∨ q ∈ a.states := by
  refine Machine.mem_addAll states Addition.states (fun a x q => ?_) a as q
  cases x with
  | state p start accept => simp [machine, call, Addition.call, addState, Addition.states]
  | edge e =>
    simp [machine, call, Addition.call, addEdge, Addition.states, or_assoc, or_left_comm]

theorem mem_start_addAll (a : Automaton) (as : List Addition) (q : StateId) :
    q ∈ (machine.addAll a as).start ↔ q ∈ as.flatMap Addition.starts ∨ q ∈ a.start := by
  refine Machine.mem_addAll start Addition.starts (fun a x q => ?_) a as q
  cases x with
  | state p start accept =>
    cases start <;> simp [machine, call, Addition.call, addState, Addition.starts]
  | edge e => simp [machine, call, Addition.call, addEdge, Addition.starts]

theorem mem_accept_addAll (a : Automaton) (as : List Addition) (q : StateId) :
    q ∈ (machine.addAll a as).accept ↔ q ∈ as.flatMap Addition.accepts ∨ q ∈ a.accept := by
  refine Machine.mem_addAll accept Addition.accepts (fun a x q => ?_) a as q
  cases x with
  | state p start accept =>
    cases accept <;> simp [machine, call, Addition.call, addState, Addition.accepts]
  | edge e => simp [machine, call, Addition.call, addEdge, Addition.accepts]

theorem mem_edges_addAll (a : Automaton) (as : List Addition) (e : Edge) :
    e ∈ (machine.addAll a as).edges ↔ e ∈ as.flatMap Addition.edges ∨ e ∈ a.edges := by
  refine Machine.mem_addAll edges Addition.edges (fun a x e => ?_) a as e
  cases x <;> simp [machine, call, Addition.call, addState, addEdge, Addition.edges]

theorem live_addAll (a : Automaton) (as : List Addition) : (machine.addAll a as).live = a.live := by
  induction as generalizing a with
  | nil => rfl
  | cons x as ih =>
    have hcall : (machine.call a x.call).1.live = a.live := by cases x <;> rfl
    exact (ih _).trans hcall

/-- Alike additions make the same of every automaton. -/
theorem addAll_of_alike (h : Alike as bs) (a : Automaton) :
    machine.addAll a as = machine.addAll a bs := by
  have hstates : (machine.addAll a as).states = (machine.addAll a bs).states :=
    SortedSet.ext fun q => by rw [mem_states_addAll, mem_states_addAll, h.states]
  have hstart : (machine.addAll a as).start = (machine.addAll a bs).start :=
    SortedSet.ext fun q => by rw [mem_start_addAll, mem_start_addAll, h.starts]
  have haccept : (machine.addAll a as).accept = (machine.addAll a bs).accept :=
    SortedSet.ext fun q => by rw [mem_accept_addAll, mem_accept_addAll, h.accepts]
  have hedges : (machine.addAll a as).edges = (machine.addAll a bs).edges :=
    SortedSet.ext fun e => by rw [mem_edges_addAll, mem_edges_addAll, h.edges]
  have hlive : (machine.addAll a as).live = (machine.addAll a bs).live := by
    rw [live_addAll, live_addAll]
  exact Automaton.ext hstates hstart haccept hedges hlive

/-- A new automaton shows all that is added to it. -/
theorem alike_of_addAll_empty (h : machine.addAll empty as = machine.addAll empty bs) :
    Alike as bs := by
  have hview {β : Type} [Keyed β] {view : Automaton → SortedSet β} {adds : Addition → List β}
      (hmem : ∀ as b, b ∈ view (machine.addAll empty as) ↔
        b ∈ as.flatMap adds ∨ b ∈ (∅ : SortedSet β)) (b : β) :
      b ∈ as.flatMap adds ↔ b ∈ bs.flatMap adds := by
    have has := hmem as b
    rw [h, hmem bs b] at has
    simpa using has.symm
  exact ⟨hview (mem_states_addAll empty), hview (mem_start_addAll empty),
    hview (mem_accept_addAll empty), hview (mem_edges_addAll empty)⟩

namespace Table

theorem toAutomaton_addAll (t : Table) (as : List Addition) :
    (machine.addAll t as).toAutomaton = Automaton.machine.addAll t.toAutomaton as := by
  induction as generalizing t with
  | nil => rfl
  | cons x as ih =>
    have hcall : (Automaton.machine.call t.toAutomaton x.call).1 =
        (machine.call t x.call).1.toAutomaton :=
      congrArg Prod.fst (toAutomaton_call t x.call)
    show _ = Automaton.machine.addAll (Automaton.machine.call t.toAutomaton x.call).1 as
    rw [hcall]
    exact ih _

/-- A row is there if it was or an edge of the additions begins it. -/
theorem isSome_lookup_addAll (t : Table) (as : List Addition) (p : StateId) (c : Char) :
    ((machine.addAll t as).rows.lookup (p, c)).isSome ↔
      (∃ q, ⟨p, c, q⟩ ∈ as.flatMap Addition.edges) ∨ (t.rows.lookup (p, c)).isSome := by
  have hadds : (∃ q, ⟨p, c, q⟩ ∈ as.flatMap Addition.edges) ↔ ∃ x ∈ as, ∃ q, ⟨p, c, q⟩ ∈ x.edges := by
    simp only [List.mem_flatMap]
    constructor
    · rintro ⟨q, x, hx, hq⟩
      exact ⟨x, hx, q, hq⟩
    · rintro ⟨x, hx, q, hq⟩
      exact ⟨q, x, hx, hq⟩
  rw [hadds]
  refine Machine.addAll_iff (P := fun t => (t.rows.lookup (p, c)).isSome) (fun t x => ?_) t as
  cases x with
  | state q start accept =>
    simp [machine, call, Addition.call, addState, Addition.edges]
  | edge e =>
    obtain ⟨source, label, target⟩ := e
    show ((t.addEdge source label target).rows.lookup (p, c)).isSome ↔ _
    rw [lookup_rows_addEdge]
    by_cases h : (p, c) = (source, label)
    · cases h
      rw [if_pos rfl]
      exact iff_of_true rfl (.inl ⟨target, List.mem_singleton.2 rfl⟩)
    · rw [if_neg h]
      refine (or_iff_right ?_).symm
      rintro ⟨q, hq⟩
      cases List.mem_singleton.1 hq
      exact h rfl

/-- A row is known from whether it is there and from its members. -/
theorem lookup_eq_of_targets {t u : Table} {p : StateId} {c : Char}
    (hrow : (t.rows.lookup (p, c)).isSome ↔ (u.rows.lookup (p, c)).isSome)
    (htargets : t.targets p c = u.targets p c) :
    t.rows.lookup (p, c) = u.rows.lookup (p, c) := by
  unfold targets at htargets
  cases ht : t.rows.lookup (p, c) <;> cases hu : u.rows.lookup (p, c) <;> simp_all

theorem toAutomaton_eq_of_equals {t u : Table} (h : t.equals u = true) :
    t.toAutomaton = u.toAutomaton := by
  obtain ⟨hstates, hstart, haccept, hrows, hlive⟩ := equals_iff.1 h
  have hedges : t.toAutomaton.edges = u.toAutomaton.edges :=
    SortedSet.ext fun e => by rw [mem_edges_toAutomaton, mem_edges_toAutomaton, targets, targets, hrows]
  exact Automaton.ext hstates hstart haccept hedges hlive

theorem equals_addAll_of_alike (h : Alike as bs) (t : Table) :
    (machine.addAll t as).equals (machine.addAll t bs) = true := by
  have hsame : (machine.addAll t as).toAutomaton = (machine.addAll t bs).toAutomaton := by
    rw [toAutomaton_addAll, toAutomaton_addAll, addAll_of_alike h]
  refine equals_iff.2 ⟨congrArg Automaton.states hsame, congrArg Automaton.start hsame,
    congrArg Automaton.accept hsame, ?_, congrArg Automaton.live hsame⟩
  rintro ⟨p, c⟩
  refine lookup_eq_of_targets ?_ (SortedSet.ext fun q => ?_)
  · simp only [isSome_lookup_addAll, h.edges]
  · have hedges : (⟨p, c, q⟩ : Edge) ∈ (machine.addAll t as).toAutomaton.edges ↔
        ⟨p, c, q⟩ ∈ (machine.addAll t bs).toAutomaton.edges := by rw [hsame]
    rwa [mem_edges_toAutomaton, mem_edges_toAutomaton] at hedges

end Table

/-- Two lists of additions are alike exactly if they make equal automata of every automaton, in whatever
state it is. None of them moves the live states. The same holds where edges are kept in place of rows. -/
theorem additions_in_any_order (as bs : List Addition) :
    (Alike as bs ↔
      ∀ t : Table, (Table.machine.addAll t as).equals (Table.machine.addAll t bs) = true) ∧
    (∀ t : Table, (Table.machine.addAll t as).live = t.live ∧
      (Table.machine.addAll t bs).live = t.live) ∧
    (Alike as bs ↔ ∀ a : Automaton, machine.addAll a as = machine.addAll a bs) ∧
    ∀ t : Table, (Table.machine.addAll t as).toAutomaton = machine.addAll t.toAutomaton as := by
  have hlive : ∀ (t : Table) as, (Table.machine.addAll t as).live = t.live := by
    intro t as
    show (Table.machine.addAll t as).toAutomaton.live = _
    rw [Table.toAutomaton_addAll, live_addAll]
    rfl
  refine ⟨⟨Table.equals_addAll_of_alike, fun h => ?_⟩, fun t => ⟨hlive t as, hlive t bs⟩,
    ⟨addAll_of_alike, fun h => alike_of_addAll_empty (h empty)⟩,
    fun t => Table.toAutomaton_addAll t as⟩
  have hempty := Table.toAutomaton_eq_of_equals (h Table.empty)
  rw [Table.toAutomaton_addAll, Table.toAutomaton_addAll] at hempty
  exact alike_of_addAll_empty hempty

/-- The marks of a state together or apart, and an edge once or twice and after another or before it. -/
example :
    let t := Table.machine.addAll Table.empty [.state 4 true true, .edge ⟨4, 'a', 1⟩, .edge ⟨4, 'b', 4⟩]
    let u := Table.machine.addAll Table.empty [.edge ⟨4, 'b', 4⟩, .state 4 false true,
      .edge ⟨4, 'b', 4⟩, .edge ⟨4, 'a', 1⟩, .state 4 true false]
    t.equals u = true ∧ t.rows.keys ≠ u.rows.keys := by
  decide

end Reckoner.Automaton
