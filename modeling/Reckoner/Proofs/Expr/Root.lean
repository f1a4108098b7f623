import Reckoner.Proofs.Expr.Depth
import Reckoner.Proofs.Expr.Grammar

/-! The root of a tree from the depth of its tokens. What a level derives as an operand has no sign of the
level outside all parentheses, so in an operation the sign between the operands is the leftmost one.
A sum comes apart there, a product without a sum's sign outside likewise, and what has no sign outside is
a number or is in parentheses. -/

namespace Reckoner

/-- The operation of the sign of the level that stands at the index, if one stands there outside all
parentheses. -/
def Tokens.sign? (ts : Tokens) (level : Level) (i : Nat) : Option BinaryOp :=
  if Tokens.depth (ts.take i) = 0 then ts[i]?.bind fun t => level.operator? t.kind else none

namespace Level

/-- No sign of the level stands outside all parentheses. -/
def NoSign (level : Level) (ts : Tokens) : Prop := ∀ i, ts.sign? level i = none

variable {level tighter : Level} {ts us vs : Tokens} {t : Token TokenKind} {op : BinaryOp} {e : Expr}

theorem sign?_left {i : Nat} (hi : i < us.length) :
    Tokens.sign? (us ++ t :: vs) level i = us.sign? level i := by
  simp only [Tokens.sign?, List.take_append_of_le_length (Nat.le_of_lt hi),
    List.getElem?_append_left hi]

section Join

variable (hus : us.Balanced)

include hus

theorem sign?_middle : Tokens.sign? (us ++ t :: vs) level us.length = level.operator? t.kind := by
  simp [Tokens.sign?, hus.closed]

theorem sign?_right (ht : t.kind.nesting = 0) (i : Nat) :
    Tokens.sign? (us ++ t :: vs) level (us.length + (i + 1)) = vs.sign? level i := by
  have hget : (us ++ t :: vs)[us.length + (i + 1)]? = vs[i]? := by
    rw [List.getElem?_append_right (Nat.le_add_right _ _), Nat.add_sub_cancel_left,
      List.getElem?_cons_succ]
  simp [Tokens.sign?, List.take_length_add_append, hus.closed, ht, hget]

theorem NoSign.join (hl : level.NoSign us) (ht : t.kind.nesting = 0)
    (hnone : level.operator? t.kind = none) (hr : level.NoSign vs) :
    level.NoSign (us ++ t :: vs) := by
  intro i
  rcases Nat.lt_trichotomy i us.length with hlt | rfl | hlt
  · rw [sign?_left hlt, hl]
  · rw [sign?_middle hus, hnone]
  · obtain ⟨j, rfl⟩ : ∃ j, i = us.length + (j + 1) := ⟨i - us.length - 1, by omega⟩
    rw [sign?_right hus ht, hr]

end Join

theorem Derives.ofTokens_eq (hlevel : level.operand? = some tighter) (h : level.Derives ts e) :
    Expr.ofTokens ts = .ok e := by
  refine Expr.ofTokens_iff.2 ?_
  cases level <;> cases hlevel
  · exact h
  · exact .ofProduct h

end Level

end Reckoner
