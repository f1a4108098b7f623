import Reckoner.Expr.Preorder

/-! The script of an expression asserts what each of its nodes is, a node before its operands. Beside it
stands where two expressions differ first, which is said without the checks of assertions. -/

namespace Reckoner

namespace Assertion

/-- What a node is, without its operands. -/
def ofNode : Expr → Assertion
  | .literal x => literal x
  | .binary op _ _ => binary op

end Assertion

namespace Expr

/-- Two nodes differ in kind, in operation, or in number. Their operands do not matter. -/
def Differs : Expr → Expr → Prop
  | literal x, literal y => ¬ (x == y) = true
  | binary op _ _, binary op' _ _ => op ≠ op'
  | _, _ => True

/-- At the end of the way the expressions differ, and at no node before it. -/
structure FirstDifference (a b : Expr) (way : List Side) : Prop where
  differs : ∃ m ∈ a.at? way, ∃ n ∈ b.at? way, m.Differs n
  first : ∀ way', Before way' way → ∀ m ∈ a.at? way', ∀ n ∈ b.at? way', ¬ m.Differs n

variable {a b l r l' r' : Expr} {op : BinaryOp} {way way' : List Side}

theorem binary_beq_binary (op op' : BinaryOp) (l r l' r' : Expr) :
    (binary op l r == binary op' l' r') = (op == op' && (l == l' && r == r')) := rfl

/-- Equal expressions differ at no node. -/
theorem not_differs_of_beq (h : (a == b) = true) {m n : Expr} (hm : m ∈ a.at? way)
    (hn : n ∈ b.at? way) : ¬ m.Differs n := by
  induction a generalizing b way with
  | literal x =>
    cases b with
    | binary op l r => cases h
    | literal y =>
      cases way with
      | nil =>
        cases hm
        cases hn
        exact fun hne => hne h
      | cons side way => cases hm
  | binary op l r ihl ihr =>
    cases b with
    | literal y => cases h
    | binary op' l' r' =>
      simp only [binary_beq_binary, Bool.and_eq_true, beq_iff_eq] at h
      obtain ⟨hop, hl, hr⟩ := h
      cases way with
      | nil =>
        cases hm
        cases hn
        exact fun hne => hne hop
      | cons side way =>
        cases side with
        | left => exact ihl hl hm hn
        | right => exact ihr hr hm hn

namespace FirstDifference

theorem left (h : FirstDifference l l' way) :
    FirstDifference (binary op l r) (binary op l' r') (.left :: way) := by
  refine ⟨h.differs, fun way' hbefore => ?_⟩
  cases hbefore with
  | ancestor =>
    rintro _ ⟨⟩ _ ⟨⟩
    exact fun hne => hne rfl
  | step hbefore => exact h.first _ hbefore

theorem right (hleft : (l == l') = true) (h : FirstDifference r r' way) :
    FirstDifference (binary op l r) (binary op l' r') (.right :: way) := by
  refine ⟨h.differs, fun way' hbefore => ?_⟩
  cases hbefore with
  | ancestor =>
    rintro _ ⟨⟩ _ ⟨⟩
    exact fun hne => hne rfl
  | apart => exact fun _ hm _ hn => not_differs_of_beq hleft hm hn
  | step hbefore => exact h.first _ hbefore

theorem unique (h : FirstDifference a b way) (h' : FirstDifference a b way') : way = way' := by
  obtain ⟨m, hm, n, hn, hdiffers⟩ := h.differs
  obtain ⟨m', hm', n', hn', hdiffers'⟩ := h'.differs
  rcases before_or_eq_or_before way way' with hbefore | heq | hbefore
  · exact absurd hdiffers (h'.first way hbefore m hm n hn)
  · exact heq
  · exact absurd hdiffers' (h.first way' hbefore m' hm' n' hn')

end FirstDifference

end Expr

end Reckoner
