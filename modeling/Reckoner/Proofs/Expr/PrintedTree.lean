import Reckoner.Proofs.Expr.Printed

/-! The printed form shows the tree. The text of a number has no blank and no parenthesis, so it is
known where an operand ends, and two expressions print the same only if they have the same operations
at the same places and numbers that are written the same. -/

namespace Reckoner

theorem BinaryOp.symbol_inj {op op' : BinaryOp} : op.symbol = op'.symbol ↔ op = op' := by
  cases op <;> cases op' <;> decide

namespace Expr

variable {s t : String} {cs rest rest' : List Char}

/-- A text with some character, and with no blank and no parenthesis. -/
def IsWord (s : String) : Prop := s ≠ "" ∧ ∀ c ∈ [' ', '(', ')'], c ∉ s.toList

theorem isWord_text (x : Float) : IsWord (Decimal.plain.text x) := by
  refine ⟨fun h => Decimal.text_ne_nil x (by rw [h, String.toList_empty]), ?_⟩
  simp [Decimal.not_mem_text]

theorem IsWord.append_ne (hs : IsWord s) : s.toList ++ rest ≠ '(' :: cs := by
  intro h
  cases hword : s.toList with
  | nil => exact hs.1 (String.toList_eq_nil_iff.1 hword)
  | cons c word =>
    rw [hword] at h
    obtain ⟨rfl, _⟩ := List.cons.inj h
    exact hs.2 '(' (by simp) (by simp [hword])

/-- A word goes on up to a blank or a parenthesis. -/
theorem IsWord.append_iff (hs : IsWord s) (ht : IsWord t) (hrest : Closed rest)
    (hrest' : Closed rest') : s.toList ++ rest = t.toList ++ rest' ↔ s = t ∧ rest = rest' := by
  have hrun : ∀ {s : String}, IsWord s → ∀ c ∈ s.toList, (c != ' ' && c != ')') = true := by
    intro s hs c hc
    have hblank : c ≠ ' ' := by rintro rfl; exact hs.2 ' ' (by simp) hc
    have hclose : c ≠ ')' := by rintro rfl; exact hs.2 ')' (by simp) hc
    simp [hblank, hclose]
  have hstop : ∀ {rest}, Closed rest → ∀ c ∈ rest.head?, (c != ' ' && c != ')') = false := by
    intro rest hrest c hc
    rcases hrest c hc with rfl | rfl <;> decide
  rw [append_inj_of_stop (hrun hs) (hrun ht) (hstop hrest) (hstop hrest'), String.toList_inj]

/-- The printed form and what stands after it are known from the text of both. -/
theorem text_append_iff (a b : Expr) (hrest : Closed rest) (hrest' : Closed rest') :
    a.text.toList ++ rest = b.text.toList ++ rest' ↔
      a.labelled Decimal.plain.text = b.labelled Decimal.plain.text ∧ rest = rest' := by
  -- An operand stands before a blank or a closing parenthesis, which is all that `Closed` asks for.
  induction a generalizing b rest rest' with
  | literal x =>
    cases b with
    | literal y =>
      simp only [text, labelled, Labelled.literal.injEq,
        (isWord_text x).append_iff (isWord_text y) hrest hrest']
    | binary op l r =>
      rw [toList_text_binary]
      exact iff_of_false (isWord_text x).append_ne (by simp [labelled])
  | binary op l r ihl ihr =>
    cases b with
    | literal y =>
      rw [toList_text_binary, eq_comm]
      exact iff_of_false (isWord_text y).append_ne (by simp [labelled])
    | binary op' l' r' =>
      simp only [toList_text_binary, List.cons.injEq, true_and, ihl l' closed_blank closed_blank,
        ihr r' closed_paren closed_paren, BinaryOp.symbol_inj, labelled, Labelled.binary.injEq]
      tauto

/-- The text of a number is a word. Two expressions print the same exactly if they have the same shape,
the same operation at every place, and at every end numbers with the same text. -/
theorem text_eq_iff :
    (∀ x : Float, IsWord (Decimal.plain.text x)) ∧ ∀ a b : Expr, a.text = b.text ↔
      a.labelled Decimal.plain.text = b.labelled Decimal.plain.text := by
  refine ⟨isWord_text, fun a b => ?_⟩
  have h := text_append_iff a b closed_nil closed_nil
  simpa only [List.append_nil, String.toList_inj, and_true] using h

end Expr

end Reckoner
