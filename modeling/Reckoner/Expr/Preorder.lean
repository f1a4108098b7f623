import Reckoner.Assertion

/-! The nodes of an expression from the root downwards. Each is found at the end of a way from the root,
a list of steps to the left or to the right operand. -/

namespace Reckoner.Expr

/-- The node at the end of a way from the root. -/
def at? : Expr → List Side → Option Expr
  | e, [] => some e
  | literal _, _ :: _ => none
  | binary _ l _, .left :: way => l.at? way
  | binary _ _ r, .right :: way => r.at? way

/-- Things found in an operand, each with the way to it, as they are found from the operation. -/
def under {α : Type} (side : Side) (found : List (List Side × α)) : List (List Side × α) :=
  found.map fun x => (side :: x.1, x.2)

/-- The nodes with the ways to them: a node, then those of its left operand, then those of its right
operand. -/
def preorder : Expr → List (List Side × Expr)
  | literal x => [([], literal x)]
  | binary op l r => ([], binary op l r) :: (under .left l.preorder ++ under .right r.preorder)

/-- A way comes before another that goes on from its end, or that first goes right where it goes left. -/
inductive Before : List Side → List Side → Prop
  | ancestor {side : Side} {way : List Side} : Before [] (side :: way)
  | apart {way way' : List Side} : Before (.left :: way) (.right :: way')
  | step {side : Side} {way way' : List Side} : Before way way' → Before (side :: way) (side :: way')

variable {α : Type} {side : Side} {way : List Side} {found : List (List Side × α)}

/-- Of two ways one comes first. -/
theorem before_or_eq_or_before (way way' : List Side) :
    Before way way' ∨ way = way' ∨ Before way' way := by
  induction way generalizing way' with
  | nil =>
    cases way' with
    | nil => exact .inr (.inl rfl)
    | cons side' way' => exact .inl .ancestor
  | cons side way ih =>
    cases way' with
    | nil => exact .inr (.inr .ancestor)
    | cons side' way' =>
      by_cases hside : side = side'
      · subst hside
        rcases ih way' with h | rfl | h
        · exact .inl (.step h)
        · exact .inr (.inl rfl)
        · exact .inr (.inr (.step h))
      · cases side <;> cases side'
        · exact absurd rfl hside
        · exact .inl .apart
        · exact .inr (.inr .apart)
        · exact absurd rfl hside

theorem mem_under {x : α} :
    (way, x) ∈ under side found ↔ ∃ rest, way = side :: rest ∧ (rest, x) ∈ found := by
  simp only [under, List.mem_map, Prod.mk.injEq, Prod.exists]
  constructor
  · rintro ⟨rest, y, hy, rfl, rfl⟩
    exact ⟨rest, rfl, hy⟩
  · rintro ⟨rest, rfl, h⟩
    exact ⟨rest, x, h, rfl, rfl⟩

theorem map_under {β : Type} (f : List Side × α → β) :
    (under side found).map f = found.map fun x => f (side :: x.1, x.2) :=
  List.map_map

theorem length_preorder (e : Expr) : e.preorder.length = e.nodeCount := by
  induction e with
  | literal x => rfl
  | binary op l r ihl ihr =>
    simp only [preorder, under, List.length_cons, List.length_append, List.length_map, ihl, ihr,
      nodeCount]
    omega

theorem mem_preorder {e node : Expr} : (way, node) ∈ e.preorder ↔ e.at? way = some node := by
  induction e generalizing way with
  | literal x => cases way <;> simp [preorder, at?, eq_comm]
  | binary op l r ihl ihr =>
    simp only [preorder, List.mem_cons, List.mem_append, mem_under, ihl, ihr]
    cases way with
    | nil => simp [at?, eq_comm]
    | cons side way => cases side <;> simp [at?]

theorem pairwise_under (h : found.Pairwise fun x y => Before x.1 y.1) :
    (under side found).Pairwise fun x y => Before x.1 y.1 :=
  List.pairwise_map.2 (h.imp .step)

theorem pairwise_preorder (e : Expr) : e.preorder.Pairwise fun x y => Before x.1 y.1 := by
  induction e with
  | literal x => exact List.pairwise_singleton _ _
  | binary op l r ihl ihr =>
    refine List.pairwise_cons.2 ⟨?_, List.pairwise_append.2
      ⟨pairwise_under ihl, pairwise_under ihr, ?_⟩⟩
    · rintro ⟨way, node⟩ h
      rcases List.mem_append.1 h with h | h
      all_goals
        obtain ⟨rest, rfl, _⟩ := mem_under.1 h
        exact .ancestor
    · rintro ⟨way, node⟩ h ⟨way', node'⟩ h'
      obtain ⟨_, rfl, _⟩ := mem_under.1 h
      obtain ⟨_, rfl, _⟩ := mem_under.1 h'
      exact .apart

end Reckoner.Expr
