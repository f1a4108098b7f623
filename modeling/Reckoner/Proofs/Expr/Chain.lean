import Reckoner.Expr.Chain
import Reckoner.Proofs.Expr.Printed

/-! The value of a flat chain of numbers. The levels of the grammar make the same groups as cutting at
every addition and subtraction does: a group is what a product takes, and a sum takes the groups. -/

namespace Reckoner

open Lexer

namespace Chain

variable {α β γ : Type} {c : Chain α} {groups : Chain (Chain α)} {op : BinaryOp}

theorem map_map (f : α → β) (g : β → γ) (c : Chain α) :
    (c.map f).map g = c.map fun a => g (f a) := by
  induction c with
  | last a => rfl
  | link a op more ih => simp only [map, ih]

theorem join_extendFirst (a : α) (op : BinaryOp) (groups : Chain (Chain α)) :
    (groups.extendFirst a op).join = link a op groups.join := by
  cases groups <;> rfl

theorem join_cut (c : Chain α) : c.cut.join = c := by
  induction c with
  | last a => rfl
  | link a op more ih =>
    unfold cut
    split
    · rw [join, append, ih]
    · rw [join_extendFirst, ih]

theorem operations_extendFirst (a : α) (op : BinaryOp) (groups : Chain (Chain α)) :
    (groups.extendFirst a op).operations = groups.operations := by
  cases groups <;> rfl

theorem isAdditive_of_mem_cut (h : op ∈ c.cut.operations) : op.isAdditive = true := by
  induction c with
  | last a => cases h
  | link a op' more ih =>
    unfold cut at h
    split at h
    next hop =>
      rcases List.mem_cons.1 h with rfl | h
      · exact hop
      · exact ih h
    next => exact ih (by rwa [operations_extendFirst] at h)

theorem forall_mem_extendFirst {P : Chain α → Prop} {a : α}
    (hlink : ∀ group, P group → P (link a op group)) (h : ∀ group ∈ groups.elements, P group) :
    ∀ group ∈ (groups.extendFirst a op).elements, P group := by
  cases groups with
  | last group =>
    intro first hfirst
    obtain rfl := List.mem_singleton.1 hfirst
    exact hlink group (h group List.mem_cons_self)
  | link group op' groups =>
    obtain ⟨hgroup, hgroups⟩ := List.forall_mem_cons.1 h
    exact List.forall_mem_cons.2 ⟨hlink group hgroup, hgroups⟩

theorem not_isAdditive_of_mem_group (c : Chain α) :
    ∀ group ∈ c.cut.elements, ∀ op ∈ group.operations, op.isAdditive = false := by
  have hlast : ∀ a : α, ∀ op ∈ (last a).operations, op.isAdditive = false := fun _ _ hop =>
    nomatch hop
  induction c with
  | last a => exact List.forall_mem_singleton.2 (hlast a)
  | link a op more ih =>
    unfold cut
    split
    next => exact List.forall_mem_cons.2 ⟨hlast a, ih⟩
    next hop =>
      apply forall_mem_extendFirst _ ih
      intro group hgroup
      exact List.forall_mem_cons.2 ⟨Bool.eq_false_iff.2 hop, hgroup⟩

/-! The tree of a chain. -/

/-- The expression that groups the chain as its value does. -/
def tree (c : Chain Float) : Expr :=
  (c.cut.map fun group => (group.map Expr.literal).foldRight Expr.binary).foldRight Expr.binary

/-- The tokens write the chain, a number for each element and a sign for each operation. -/
inductive Spelled : Tokens → Chain Float → Prop
  | last {t : Token TokenKind} {x : Float} :
      t.kind = .num → Decimal.read t.lexeme = some x → Spelled [t] (.last x)
  | link {t o : Token TokenKind} {x : Float} {op : BinaryOp} {ts : Tokens} {more : Chain Float} :
      t.kind = .num → Decimal.read t.lexeme = some x → o.kind = op.tokenKind → Spelled ts more →
      Spelled (t :: o :: ts) (.link x op more)

variable {ts : Tokens} {first more values : Chain Float}

theorem Spelled.of_append (h : Spelled ts (first.append op more)) :
    ∃ us o vs, ts = us ++ o :: vs ∧ Spelled us first ∧ o.kind = op.tokenKind ∧ Spelled vs more := by
  induction first generalizing ts with
  | last x =>
    cases h with
    | @link t o _ _ vs _ ht hx ho hmore => exact ⟨[t], o, vs, rfl, .last ht hx, ho, hmore⟩
  | link x op' first ih =>
    cases h with
    | @link t o' _ _ _ _ ht hx ho' h =>
      obtain ⟨us, o, vs, rfl, hfirst, ho, hmore⟩ := ih h
      exact ⟨t :: o' :: us, o, vs, rfl, .link ht hx ho' hfirst, ho, hmore⟩

theorem operator?_product (h : op.isAdditive = false) :
    Level.product.operator? op.tokenKind = some op := by
  cases op <;> first | rfl | cases h

theorem operator?_sum (h : op.isAdditive = true) : Level.sum.operator? op.tokenKind = some op := by
  cases op <;> first | rfl | cases h

theorem Spelled.derives_product (h : Spelled ts values)
    (hops : ∀ op ∈ values.operations, op.isAdditive = false) :
    Level.product.Derives ts ((values.map Expr.literal).foldRight Expr.binary) := by
  induction h with
  | last ht hx => exact .ofLiteral (.number ht hx)
  | @link t o x op ts more ht hx ho _ ih =>
    obtain ⟨hop, hops⟩ := List.forall_mem_cons.1 hops
    have hsign : Level.product.operator? o.kind = some op := by rw [ho, operator?_product hop]
    exact Level.Derives.binary rfl (.number ht hx) hsign (ih hops)

theorem Spelled.derives_sum {groups : Chain (Chain Float)} (h : Spelled ts groups.join)
    (houter : ∀ op ∈ groups.operations, op.isAdditive = true)
    (hinner : ∀ group ∈ groups.elements, ∀ op ∈ group.operations, op.isAdditive = false) :
    Level.sum.Derives ts
      ((groups.map fun group => (group.map Expr.literal).foldRight Expr.binary).foldRight
        Expr.binary) := by
  induction groups generalizing ts with
  | last group => exact .ofProduct (Spelled.derives_product h (hinner group List.mem_cons_self))
  | link group op groups ih =>
    obtain ⟨hop, houter⟩ := List.forall_mem_cons.1 houter
    obtain ⟨hgroup, hinner⟩ := List.forall_mem_cons.1 hinner
    obtain ⟨us, o, vs, rfl, hfirst, ho, hmore⟩ := h.of_append
    have hsign : Level.sum.operator? o.kind = some op := by rw [ho, operator?_sum hop]
    exact Level.Derives.binary rfl (hfirst.derives_product hgroup) hsign (ih hmore houter hinner)

theorem Spelled.ofTokens_eq (h : Spelled ts values) : Expr.ofTokens ts = .ok values.tree := by
  -- The tokens write the groups in turn, so the grammar can take them group by group.
  rw [← join_cut values] at h
  apply Expr.ofTokens_iff.2
  exact h.derives_sum (fun _ => isAdditive_of_mem_cut) (not_isAdditive_of_mem_group values)

/-! The text of a chain. -/

/-- The lexemes of the text that are not blanks. -/
def pieces : Chain PaddedNumber → List (TokenKind × List Char)
  | last p => [(.num, p.number.toList)]
  | link p op more => (.num, p.number.toList) :: (op.tokenKind, [op.symbol]) :: more.pieces

end Chain

end Reckoner
