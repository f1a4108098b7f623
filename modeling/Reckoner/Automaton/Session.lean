import Reckoner.Automaton.Table

/-! Sessions with several automata: new ones, copies, and calls of each in any order. They are the same
whether the automata keep edges or rows, `run_map_toAutomaton`. -/

namespace Reckoner.Automaton

/-- What can be asked of one automaton. -/
inductive Call where
  | addState (q : StateId) (start accept : Bool)
  | addEdge (source : StateId) (label : Char) (target : StateId)
  | reset
  | apply (c : Char)
  | matchWord (word : String)
  | canMove (c : Char)
  | accepts
  | isDead

/-- Whether a call is a question only. The match of a word is not: it moves the live states. -/
def Call.isQuery : Call → Bool
  | canMove _ | accepts | isDead => true
  | addState .. | addEdge .. | reset | apply _ | matchWord _ => false

/-- Whether a call makes the start states live. The match of a word begins with that. -/
def Call.resets : Call → Bool
  | reset | matchWord _ => true
  | addState .. | addEdge .. | apply _ | canMove _ | accepts | isDead => false

/-- The automaton after a call, and the answer to a question. -/
def call (a : Automaton) : Call → Automaton × Option Bool
  | .addState q start accept => (a.addState q start accept, none)
  | .addEdge source label target => (a.addEdge source label target, none)
  | .reset => (a.reset, none)
  | .apply c => (a.apply c, none)
  | .matchWord word => ((a.matchWord word.toList).1, some (a.matchWord word.toList).2)
  | .canMove c => (a, some (a.canMove c))
  | .accepts => (a, some a.accepts)
  | .isDead => (a, some a.isDead)

def Table.call (t : Table) : Call → Table × Option Bool
  | .addState q start accept => (t.addState q start accept, none)
  | .addEdge source label target => (t.addEdge source label target, none)
  | .reset => (t.reset, none)
  | .apply c => (t.apply c, none)
  | .matchWord word => ((t.matchWord word.toList).1, some (t.matchWord word.toList).2)
  | .canMove c => (t, some (t.canMove c))
  | .accepts => (t, some t.accepts)
  | .isDead => (t, some t.isDead)

/-- A way to keep automata: what a new one is, and what a call does. -/
structure Machine (α : Type) where
  new : α
  call : α → Call → α × Option Bool

def machine : Machine Automaton := ⟨empty, call⟩

def Table.machine : Machine Table := ⟨Table.empty, Table.call⟩

/-- What can be done in a session. Its automata are numbered in the order of their beginning. -/
inductive Command where
  | new
  | clone (i : Nat)
  | call (i : Nat) (c : Call)

def Command.isQuery : Command → Bool
  | new | clone _ => false
  | call _ c => c.isQuery

namespace Machine

variable {α β : Type} (m : Machine α)

/-- The automata of a session after a command, and the answer. Only the automaton that is called
changes. Where no automaton has the number, nothing does. -/
def step (session : List α) : Command → List α × Option Bool
  | .new => (session ++ [m.new], none)
  | .clone i => (session ++ session[i]?.toList, none)
  | .call i c =>
    (session.modify i fun a => (m.call a c).1, session[i]?.bind fun a => (m.call a c).2)

def run (session : List α) : List Command → List α × List (Option Bool)
  | [] => (session, [])
  | command :: commands =>
    let (next, answer) := m.step session command
    let (last, answers) := run next commands
    (last, answer :: answers)

variable {m} {session : List α}

theorem getElem?_step_call (session : List α) (i j : Nat) (c : Call) :
    (m.step session (.call i c)).1[j]? =
      session[j]?.map fun a => if i = j then (m.call a c).1 else a :=
  List.getElem?_modify _ i session j

theorem run_append (before after : List Command) :
    (m.run session (before ++ after)).1 = (m.run (m.run session before).1 after).1 := by
  induction before generalizing session with
  | nil => rfl
  | cons command before ih => exact ih

theorem forall_step {P : α → Prop} (hnew : P m.new) (hcall : ∀ a c, P a → P (m.call a c).1)
    (h : ∀ a ∈ session, P a) (command : Command) : ∀ a ∈ (m.step session command).1, P a := by
  intro a ha
  cases command with
  | new =>
    rcases List.mem_append.1 ha with ha | ha
    · exact h a ha
    · rw [List.mem_singleton.1 ha]
      exact hnew
  | clone i =>
    rcases List.mem_append.1 ha with ha | ha
    · exact h a ha
    · exact h a (List.mem_of_getElem? (Option.mem_toList.1 ha))
  | call i c =>
    obtain ⟨j, hj⟩ := List.mem_iff_getElem?.1 ha
    rw [getElem?_step_call] at hj
    obtain ⟨b, hb, rfl⟩ := Option.map_eq_some_iff.1 hj
    have hP := h b (List.mem_of_getElem? hb)
    split
    · exact hcall b c hP
    · exact hP

/-- What a new automaton has and every call keeps, all automata of a session have. -/
theorem forall_run {P : α → Prop} (hnew : P m.new) (hcall : ∀ a c, P a → P (m.call a c).1)
    (h : ∀ a ∈ session, P a) (commands : List Command) :
    ∀ a ∈ (m.run session commands).1, P a := by
  induction commands generalizing session with
  | nil => exact h
  | cons command commands ih => exact ih (forall_step hnew hcall h command)

theorem exists_step {P : α → Prop} {i : Nat} {command : Command}
    (hcall : ∀ a c, command = .call i c → P a → P (m.call a c).1)
    (h : ∃ a ∈ session[i]?, P a) : ∃ a ∈ (m.step session command).1[i]?, P a := by
  obtain ⟨a, ha, hP⟩ := h
  have hlt : i < session.length := (List.getElem?_eq_some_iff.1 ha).1
  cases command with
  | new | clone j => exact ⟨a, (List.getElem?_append_left hlt).trans ha, hP⟩
  | call j c =>
    rw [getElem?_step_call, ha]
    by_cases hij : j = i
    · subst hij
      exact ⟨(m.call a c).1, by simp, hcall a c rfl hP⟩
    · exact ⟨a, by simp [hij], hP⟩

/-- What the calls of one automaton keep, it keeps, whatever is done with the others. -/
theorem exists_run {P : α → Prop} {i : Nat} {commands : List Command}
    (hcall : ∀ a c, .call i c ∈ commands → P a → P (m.call a c).1)
    (h : ∃ a ∈ session[i]?, P a) : ∃ a ∈ (m.run session commands).1[i]?, P a := by
  induction commands generalizing session with
  | nil => exact h
  | cons command commands ih =>
    refine ih (fun a c hc => hcall a c (List.mem_cons_of_mem _ hc)) (exists_step ?_ h)
    intro a c hc
    exact hcall a c (by simp [hc])

theorem step_of_isQuery (hquery : ∀ a c, c.isQuery = true → (m.call a c).1 = a)
    {command : Command} (h : command.isQuery = true) : (m.step session command).1 = session := by
  cases command with
  | new | clone i => cases h
  | call i c =>
    refine List.ext_getElem? fun j => ?_
    rw [getElem?_step_call]
    simp only [hquery _ c h, ite_self, Option.map_id']

/-- If questions change no automaton, a session without its questions ends as it does with them. -/
theorem run_filter (hquery : ∀ a c, c.isQuery = true → (m.call a c).1 = a)
    (commands : List Command) :
    (m.run session (commands.filter fun command => !command.isQuery)).1 =
      (m.run session commands).1 := by
  induction commands generalizing session with
  | nil => rfl
  | cons command commands ih =>
    show _ = (m.run (m.step session command).1 commands).1
    by_cases h : command.isQuery = true
    · rw [List.filter_cons_of_neg (by simp [h]), ih, step_of_isQuery hquery h]
    · rw [List.filter_cons_of_pos (by simp [h])]
      exact ih

section Map

variable {n : Machine β} {f : α → β}

theorem step_map (hnew : f m.new = n.new)
    (hcall : ∀ a c, n.call (f a) c = (f (m.call a c).1, (m.call a c).2))
    (session : List α) (command : Command) :
    n.step (session.map f) command =
      ((m.step session command).1.map f, (m.step session command).2) := by
  cases command with
  | new => simp [step, hnew]
  | clone i => cases h : session[i]? <;> simp [step, h]
  | call i c =>
    refine Prod.ext (List.ext_getElem? fun j => ?_) ?_
    · simp only [getElem?_step_call, List.getElem?_map, Option.map_map]
      refine congrArg (Option.map · session[j]?) (funext fun a => ?_)
      by_cases hij : i = j
      · simp [hij, hcall]
      · simp [hij]
    · cases h : session[i]? <;> simp [step, h, hcall]

/-- A map that calls respect takes sessions to sessions, with the same answers. -/
theorem run_map (hnew : f m.new = n.new)
    (hcall : ∀ a c, n.call (f a) c = (f (m.call a c).1, (m.call a c).2))
    (session : List α) (commands : List Command) :
    n.run (session.map f) commands =
      ((m.run session commands).1.map f, (m.run session commands).2) := by
  induction commands generalizing session with
  | nil => rfl
  | cons command commands ih => simp only [run, step_map hnew hcall, ih]

end Map

end Machine

namespace Table

theorem toAutomaton_call (t : Table) (c : Call) :
    t.toAutomaton.call c = ((t.call c).1.toAutomaton, (t.call c).2) := by
  cases c with
  | addState | reset | accepts | isDead => rfl
  | addEdge source label target =>
    rw [call, toAutomaton_addEdge]
    rfl
  | apply c =>
    rw [call, toAutomaton_apply]
    rfl
  | matchWord word =>
    have hrun := run_toAutomaton t.reset word.toList
    exact congrArg (fun result => (result.1, some result.2)) hrun
  | canMove c => exact congrArg (fun answer => (t.toAutomaton, some answer)) (canMove_toAutomaton t c)

theorem run_map_toAutomaton (session : List Table) (commands : List Command) :
    Automaton.machine.run (session.map toAutomaton) commands =
      ((machine.run session commands).1.map toAutomaton, (machine.run session commands).2) :=
  Machine.run_map (m := machine) (n := Automaton.machine) rfl toAutomaton_call session commands

end Table

end Reckoner.Automaton
