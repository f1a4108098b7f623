import Reckoner.Automaton.Session

/-! Additions: the calls that build an automaton up. Two lists of additions are alike if they name the
same states, give the same marks and have the same edges, in whatever order and however often. -/

namespace Reckoner.Automaton

inductive Addition where
  | state (q : StateId) (start accept : Bool)
  | edge (e : Edge)
  deriving DecidableEq

namespace Addition

def call : Addition → Call
  | state q start accept => .addState q start accept
  | edge e => .addEdge e.source e.label e.target

/-- The states that an addition names, by themselves or as an end of an edge. -/
def states : Addition → List StateId
  | state q _ _ => [q]
  | edge e => [e.source, e.target]

def starts : Addition → List StateId
  | state q start _ => if start then [q] else []
  | edge _ => []

def accepts : Addition → List StateId
  | state q _ accept => if accept then [q] else []
  | edge _ => []

def edges : Addition → List Edge
  | state .. => []
  | edge e => [e]

/-- The additions come to the same states, marks and edges. -/
structure Alike (as bs : List Addition) : Prop where
  states : ∀ q, q ∈ as.flatMap Addition.states ↔ q ∈ bs.flatMap Addition.states
  starts : ∀ q, q ∈ as.flatMap Addition.starts ↔ q ∈ bs.flatMap Addition.starts
  accepts : ∀ q, q ∈ as.flatMap Addition.accepts ↔ q ∈ bs.flatMap Addition.accepts
  edges : ∀ e, e ∈ as.flatMap Addition.edges ↔ e ∈ bs.flatMap Addition.edges

end Addition

namespace Machine

variable {α : Type} {m : Machine α}

/-- Makes the additions in turn. -/
def addAll (m : Machine α) (a : α) (as : List Addition) : α :=
  as.foldl (fun a addition => (m.call a addition.call).1) a

/-- What each addition may put into an automaton, and none takes away, is in it in the end if it was
there or one of the additions put it there. -/
theorem addAll_iff {P : α → Prop} {adds : Addition → Prop}
    (hcall : ∀ a x, P (m.call a x.call).1 ↔ adds x ∨ P a) (a : α) (as : List Addition) :
    P (m.addAll a as) ↔ (∃ x ∈ as, adds x) ∨ P a := by
  induction as generalizing a with
  | nil => simp [addAll]
  | cons x as ih =>
    show P (m.addAll (m.call a x.call).1 as) ↔ _
    rw [ih, hcall, List.exists_mem_cons_iff, or_left_comm, or_assoc]

theorem mem_addAll {β : Type} [Keyed β] (view : α → SortedSet β) (adds : Addition → List β)
    (hcall : ∀ a x b, b ∈ view (m.call a x.call).1 ↔ b ∈ adds x ∨ b ∈ view a) (a : α)
    (as : List Addition) (b : β) :
    b ∈ view (m.addAll a as) ↔ b ∈ as.flatMap adds ∨ b ∈ view a := by
  rw [List.mem_flatMap]
  exact addAll_iff (P := fun a => b ∈ view a) (fun a x => hcall a x b) a as

end Machine

end Reckoner.Automaton
