import Reckoner.Automaton.Session
import Reckoner.Proofs.Automaton.Simulation

/-! What holds of every automaton of a session, in whatever order its states and edges are added and
it is simulated: all states that it mentions are named, and no row is empty. -/

namespace Reckoner.Automaton.Table

/-- The states mentioned anywhere are among `states`, and every row has a member. -/
structure WellFormed (t : Table) : Prop where
  start_named : ∀ q ∈ t.start, q ∈ t.states
  accept_named : ∀ q ∈ t.accept, q ∈ t.states
  live_named : ∀ q ∈ t.live, q ∈ t.states
  source_named : ∀ {p c row}, t.rows.lookup (p, c) = some row → p ∈ t.states
  target_named : ∀ {p c row}, t.rows.lookup (p, c) = some row → ∀ q ∈ row, q ∈ t.states
  row_nonempty : ∀ {p c row}, t.rows.lookup (p, c) = some row → ∃ q, q ∈ row

variable {t : Table} {c : Char}

theorem wellFormed_empty : empty.WellFormed where
  start_named _ hq := absurd hq (SortedSet.not_mem_empty _)
  accept_named _ hq := absurd hq (SortedSet.not_mem_empty _)
  live_named _ hq := absurd hq (SortedSet.not_mem_empty _)
  source_named hrow := by cases hrow
  target_named hrow := by cases hrow
  row_nonempty hrow := by cases hrow

namespace WellFormed

theorem targets_named (h : t.WellFormed) {p q : StateId} (hq : q ∈ t.targets p c) :
    q ∈ t.states := by
  obtain ⟨row, hrow, hq⟩ := mem_targets.1 hq
  exact h.target_named hrow q hq

theorem addState (h : t.WellFormed) (q : StateId) (start accept : Bool) :
    (t.addState q start accept).WellFormed := by
  have hkeep : ∀ p ∈ t.states, p ∈ t.states.insert q := fun p hp => SortedSet.mem_insert.2 (.inr hp)
  -- A mark goes with the name of the state itself.
  have hmark : ∀ (flag : Bool) (marked : SortedSet StateId), (∀ p ∈ marked, p ∈ t.states) →
      ∀ p ∈ if flag then marked.insert q else marked, p ∈ t.states.insert q := by
    intro flag marked hmarked p hp
    cases flag with
    | false => exact hkeep p (hmarked p hp)
    | true =>
      rcases SortedSet.mem_insert.1 hp with rfl | hp
      · exact SortedSet.mem_insert.2 (.inl rfl)
      · exact hkeep p (hmarked p hp)
  exact {
    start_named := hmark start t.start h.start_named
    accept_named := hmark accept t.accept h.accept_named
    live_named := fun p hp => hkeep p (h.live_named p hp)
    source_named := fun hrow => hkeep _ (h.source_named hrow)
    target_named := fun hrow p hp => hkeep p (h.target_named hrow p hp)
    row_nonempty := h.row_nonempty }

theorem addEdge (h : t.WellFormed) (source : StateId) (label : Char) (target : StateId) :
    (t.addEdge source label target).WellFormed := by
  have hstates : ∀ p, p ∈ (t.addEdge source label target).states ↔
      p = target ∨ p = source ∨ p ∈ t.states := by
    intro p
    simp only [Table.addEdge, SortedSet.mem_insert]
  have hkeep : ∀ p ∈ t.states, p ∈ (t.addEdge source label target).states :=
    fun p hp => (hstates p).2 (.inr (.inr hp))
  -- A row is one of before, or the one that the addition extends.
  have hrows : ∀ {p c row}, (t.addEdge source label target).rows.lookup (p, c) = some row →
      t.rows.lookup (p, c) = some row ∨
        p = source ∧ row = (t.targets source label).insert target := by
    intro p c row hrow
    rw [lookup_rows_addEdge] at hrow
    split at hrow
    next hpair =>
      cases hpair
      exact .inr ⟨rfl, (Option.some.inj hrow).symm⟩
    next => exact .inl hrow
  refine ⟨fun p hp => hkeep p (h.start_named p hp), fun p hp => hkeep p (h.accept_named p hp),
    fun p hp => hkeep p (h.live_named p hp), ?_, ?_, ?_⟩
  · intro p c row hrow
    rcases hrows hrow with hrow | ⟨rfl, -⟩
    · exact hkeep p (h.source_named hrow)
    · exact (hstates p).2 (.inr (.inl rfl))
  · intro p c row hrow q hq
    rcases hrows hrow with hrow | ⟨-, rfl⟩
    · exact hkeep q (h.target_named hrow q hq)
    · rcases SortedSet.mem_insert.1 hq with rfl | hq
      · exact (hstates q).2 (.inl rfl)
      · exact hkeep q (h.targets_named hq)
  · intro p c row hrow
    rcases hrows hrow with hrow | ⟨-, rfl⟩
    · exact h.row_nonempty hrow
    · exact ⟨target, SortedSet.mem_insert.2 (.inl rfl)⟩

theorem reset (h : t.WellFormed) : t.reset.WellFormed :=
  { h with live_named := h.start_named }

theorem apply (h : t.WellFormed) (c : Char) : (t.apply c).WellFormed :=
  { h with
    live_named := fun q hq => by
      obtain ⟨p, -, hq⟩ := mem_live_apply.1 hq
      exact h.targets_named hq }

theorem run (h : t.WellFormed) (word : List Char) : (t.run word).1.WellFormed := by
  induction word generalizing t with
  | nil => exact h
  | cons c word ih =>
    rw [Table.run]
    split
    · exact h
    · exact ih (h.apply c)

theorem call (h : t.WellFormed) (c : Call) : (t.call c).1.WellFormed := by
  cases c with
  | addState q start accept => exact h.addState q start accept
  | addEdge source label target => exact h.addEdge source label target
  | reset => exact h.reset
  | apply c => exact h.apply c
  | matchWord word => exact h.reset.run word.toList
  | canMove | accepts | isDead => exact h

end WellFormed

/-- The pairs with an edge are the pairs with a row, because no row is empty. -/
theorem moveCount_toAutomaton (h : t.WellFormed) :
    t.toAutomaton.moveCount = t.rows.keys.length := by
  refine List.Perm.length_eq ?_
  refine (List.perm_ext_iff_of_nodup t.toAutomaton.nodup_moves t.rows.keys_nodup).2 fun pair => ?_
  obtain ⟨p, c⟩ := pair
  rw [Automaton.mem_moves, ← AList.mem_keys, ← AList.lookup_isSome, Option.isSome_iff_exists]
  simp only [mem_edges_toAutomaton, mem_targets]
  constructor
  · rintro ⟨q, row, hrow, -⟩
    exact ⟨row, hrow⟩
  · rintro ⟨row, hrow⟩
    obtain ⟨q, hq⟩ := h.row_nonempty hrow
    exact ⟨q, row, hrow, hq⟩

/-- The question before a move answers as the live states after it say. -/
theorem canMove_iff_apply : t.canMove c = true ↔ (t.apply c).isDead = false := by
  have hdead : (t.apply c).isDead = (t.toAutomaton.apply c).isDead := by
    rw [← toAutomaton_apply]
    rfl
  rw [← canMove_toAutomaton, Automaton.canMove_iff_apply, hdead, ← Bool.not_eq_true,
    Automaton.isDead_iff, not_forall_not]

theorem isDead_call (h : t.isDead = true) {c : Call} (hc : c.resets = false) :
    (t.call c).1.isDead = true := by
  cases c with
  | addState | addEdge | canMove | accepts | isDead => exact h
  | apply c =>
    have happly : (t.apply c).toAutomaton = t.toAutomaton := by
      rw [toAutomaton_apply]
      exact Automaton.apply_of_isDead (a := t.toAutomaton) h c
    exact (congrArg Automaton.isDead happly).trans h
  | reset | matchWord => cases hc

theorem call_of_isQuery (t : Table) (c : Call) (h : c.isQuery = true) : (t.call c).1 = t := by
  cases c with
  | canMove | accepts | isDead => rfl
  | addState | addEdge | reset | apply | matchWord => cases h

/-- Every automaton of a session is well-formed, and says that it can move exactly if states are live
after the move. Its questions can be left out. One that is dead stays so and does not accept until
its next reset, whatever else is done in the session. A session of automata that keep edges goes the
same way and has the same answers. -/
theorem session_wellFormed (commands more : List Command) :
    let session := (machine.run [] commands).1
    (∀ t ∈ session, t.WellFormed) ∧
    (∀ t ∈ session, ∀ c, t.canMove c = true ↔ (t.apply c).isDead = false) ∧
    (machine.run [] (commands.filter fun command => !command.isQuery)).1 = session ∧
    (∀ i, (∃ t ∈ session[i]?, t.isDead = true) →
      (∀ c, .call i c ∈ more → c.resets = false) →
      ∃ t ∈ (machine.run [] (commands ++ more)).1[i]?, t.isDead = true ∧ t.accepts = false) ∧
    Automaton.machine.run [] commands =
      (session.map toAutomaton, (machine.run [] commands).2) := by
  intro session
  refine ⟨?_, fun t _ c => canMove_iff_apply, Machine.run_filter call_of_isQuery commands, ?_,
    run_map_toAutomaton [] commands⟩
  · exact Machine.forall_run wellFormed_empty (fun t c h => h.call c) (by simp) commands
  · intro i hdead hmore
    have hstays : ∀ (t : Table) (c : Call), .call i c ∈ more → t.isDead = true →
        (t.call c).1.isDead = true :=
      fun t c hc h => isDead_call h (hmore c hc)
    obtain ⟨t, ht, h⟩ := Machine.exists_run (m := machine) hstays hdead
    rw [Machine.run_append]
    exact ⟨t, ht, h, Automaton.accepts_of_isDead (a := t.toAutomaton) h⟩

/-- A session in which an automaton runs into its death, is copied, and is added to. -/
theorem session_wellFormed_of_dead :
    let commands : List Command := [.new, .call 0 (.addState 0 true false),
      .call 0 (.addEdge 0 'a' 1), .call 0 .reset, .call 0 (.apply 'b'), .clone 0]
    let more : List Command := [.call 0 (.addEdge 0 'b' 0), .call 1 .reset, .call 0 (.apply 'b')]
    (∃ t ∈ (machine.run [] commands).1[0]?, t.isDead = true) ∧
    (∀ c, .call 0 c ∈ more → c.resets = false) ∧
    ∃ t ∈ (machine.run [] (commands ++ more)).1[0]?, t.isDead = true ∧ t.accepts = false := by
  intro commands more
  have hdead : ∃ t ∈ (machine.run [] commands).1[0]?, t.isDead = true := ⟨_, rfl, rfl⟩
  have hmore : ∀ c, .call 0 c ∈ more → c.resets = false := by
    intro c hc
    have hkept : c = .addEdge 0 'b' 0 ∨ c = .apply 'b' := by simpa [more] using hc
    rcases hkept with rfl | rfl <;> rfl
  exact ⟨hdead, hmore, (session_wellFormed commands more).2.2.2.1 0 hdead hmore⟩

end Reckoner.Automaton.Table
