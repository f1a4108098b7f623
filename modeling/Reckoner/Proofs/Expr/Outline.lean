import Reckoner.Expr.Layout
import Reckoner.Expr.Preorder
import Reckoner.Proofs.Decimal.Plain
import Reckoner.Proofs.Text.Lines

/-! The lines of an outline. Each is the line of a node, and what is drawn in front of the node shows
the way to it: at every operation above it, whether the way goes to the operand that is last. So an
outline shows the tree up to what is cut off from the numbers. -/

namespace Reckoner

/-- What is drawn of an operation in front of the lines of an operand, below the operand's own: a line
goes on from the left operand to the right one. -/
def Side.rail : Side → String
  | left => "│ "
  | right => "  "

/-- The end of the line that is drawn from an operation to an operand. -/
def Side.branch : Side → String
  | left => "├─"
  | right => "└─"

namespace BinaryOp

theorem name_inj {op op' : BinaryOp} : op.name = op'.name ↔ op = op' := by
  cases op <;> cases op' <;> decide

theorem name_ne_literal (op : BinaryOp) : op.name ≠ "literal" := by cases op <;> decide

theorem isLower_of_mem_name (op : BinaryOp) : ∀ c ∈ op.name.toList, c.isLower = true := by
  cases op <;> simp [name]

end BinaryOp

namespace Expr

/-- What is drawn in front of the operands of the node at the end of a way. -/
def rails (way : List Side) : String := "  " ++ String.join (way.map Side.rail)

/-- What is drawn in front of the node at the end of a way. -/
def drawn (way : List Side) : String :=
  match way.getLast? with
  | none => "└─"
  | some side => rails way.dropLast ++ side.branch

/-- The line of the node at the end of a way. -/
def outlineLine (maxLabel : Nat) (way : List Side) (node : Expr) : String :=
  drawn way ++ " " ++ node.nodeType ++ ": " ++ cutLabel maxLabel node.label

variable {maxLabel : Nat} {lead : String} {last : Bool} {c : Char} {rest rest' : List Char}

theorem not_mem_nodeType (hc : c.isLower = false) (e : Expr) : c ∉ e.nodeType.toList := by
  have hlower : ∀ d ∈ e.nodeType.toList, d.isLower = true := by
    cases e with
    | literal x => simp [nodeType]
    | binary op l r => exact op.isLower_of_mem_name
  intro h
  simp [hlower c h] at hc

@[simp] theorem drawn_concat (way : List Side) (side : Side) :
    drawn (way ++ [side]) = rails way ++ side.branch := by
  simp [drawn]

@[simp] theorem rails_concat (way : List Side) (side : Side) :
    rails (way ++ [side]) = rails way ++ side.rail := by
  simp [rails, String.append_assoc]

/-- The lines of an expression that is found at the end of a way. -/
theorem outlineLines_eq (e : Expr) (lead : String) (last : Bool) (way : List Side)
    (hdrawn : lead ++ (if last then "└─" else "├─") = drawn way)
    (hrails : lead ++ (if last then "  " else "│ ") = rails way) :
    e.outlineLines maxLabel lead last =
      String.join (e.preorder.map fun n => outlineLine maxLabel (way ++ n.1) n.2 ++ "\n") := by
  -- What is drawn in front of an operand is that of the way with one more step.
  induction e generalizing lead last way with
  | literal x => simp [outlineLines, preorder, outlineLine, hdrawn]
  | binary op l r ihl ihr =>
    have hl := ihl (rails way) false (way ++ [.left]) (by simp [Side.branch]) (by simp [Side.rail])
    have hr := ihr (rails way) true (way ++ [.right]) (by simp [Side.branch]) (by simp [Side.rail])
    simp only [List.append_assoc, List.singleton_append] at hl hr
    simp [outlineLines, preorder, outlineLine, hdrawn, hrails, hl, hr, map_under, String.append_assoc]

theorem outline_eq (maxLabel : Nat) (e : Expr) :
    e.outline maxLabel =
      String.join ((e.preorder.map fun n => outlineLine maxLabel n.1 n.2).map (· ++ "\n")) := by
  rw [outline, outlineLines_eq e "" true [] rfl rfl, List.map_map]
  rfl

theorem isLine_label (e : Expr) : Text.IsLine e.label := by
  cases e with
  | literal x => simp [Text.IsLine, label, Decimal.not_mem_text]
  | binary op l r =>
    cases op <;> simp [Text.IsLine, label, BinaryOp.symbol, Char.toString_eq_singleton]

theorem isLine_nodeType (e : Expr) : Text.IsLine e.nodeType :=
  ⟨not_mem_nodeType (by decide) e, not_mem_nodeType (by decide) e⟩

theorem isLine_cutLabel {s : String} (h : Text.IsLine s) (maxLabel : Nat) :
    Text.IsLine (cutLabel maxLabel s) := by
  unfold cutLabel
  split
  · refine Text.isLine_append.2 ⟨?_, by decide⟩
    rw [Text.IsLine, String.toList_ofList]
    exact ⟨fun hmem => h.1 (List.mem_of_mem_take hmem), fun hmem => h.2 (List.mem_of_mem_take hmem)⟩
  · exact h

theorem isLine_rails (way : List Side) : Text.IsLine (rails way) := by
  refine Text.isLine_append.2 ⟨by decide, Text.isLine_join ?_⟩
  rintro _ h
  obtain ⟨side, -, rfl⟩ := List.mem_map.1 h
  cases side <;> decide

theorem isLine_drawn (way : List Side) : Text.IsLine (drawn way) := by
  rcases List.eq_nil_or_concat way with rfl | ⟨way, side, rfl⟩
  · decide
  · rw [List.concat_eq_append, drawn_concat]
    exact Text.isLine_append.2 ⟨isLine_rails way, by cases side <;> decide⟩

theorem isLine_outlineLine (maxLabel : Nat) (way : List Side) (e : Expr) :
    Text.IsLine (outlineLine maxLabel way e) := by
  simp only [outlineLine, Text.isLine_append]
  exact ⟨⟨⟨⟨isLine_drawn way, by decide⟩, isLine_nodeType e⟩, by decide⟩,
    isLine_cutLabel (isLine_label e) maxLabel⟩

theorem lines_outline (maxLabel : Nat) (e : Expr) :
    Text.lines (e.outline maxLabel) = e.preorder.map fun n => outlineLine maxLabel n.1 n.2 := by
  have hlines : ∀ l ∈ e.preorder.map fun n => outlineLine maxLabel n.1 n.2, Text.IsLine l := by
    rintro _ h
    obtain ⟨n, -, rfl⟩ := List.mem_map.1 h
    exact isLine_outlineLine maxLabel n.1 n.2
  have hsplit := Text.lines_join hlines ""
  rw [← outline_eq, String.append_empty] at hsplit
  exact hsplit.trans (List.append_nil _)

/-! The tree from its outline. -/

/-- The first line of an outline. -/
def outlineHead (maxLabel : Nat) (lead : String) (last : Bool) (e : Expr) : String :=
  lead ++ (if last then "└─" else "├─") ++ " " ++ e.nodeType ++ ": " ++ cutLabel maxLabel e.label ++
    "\n"

/-- The type of a node ends at the colon, and its label at the end of the line. -/
theorem outlineHead_append_iff (a b : Expr) :
    (outlineHead maxLabel lead last a).toList ++ rest =
        (outlineHead maxLabel lead last b).toList ++ rest' ↔
      a.nodeType = b.nodeType ∧ cutLabel maxLabel a.label = cutLabel maxLabel b.label ∧
        rest = rest' := by
  have htype : ∀ e : Expr, ':' ∉ e.nodeType.toList := not_mem_nodeType (by decide)
  have hlabel : ∀ e : Expr, '\n' ∉ (cutLabel maxLabel e.label).toList := fun e =>
    (isLine_cutLabel (isLine_label e) maxLabel).1
  have hline : ∀ (e : Expr) (rest : List Char),
      (outlineHead maxLabel lead last e).toList ++ rest =
        (lead ++ (if last then "└─" else "├─") ++ " ").toList ++ (e.nodeType.toList ++ ':' :: ' ' ::
          ((cutLabel maxLabel e.label).toList ++ '\n' :: rest)) := by
    simp [outlineHead]
  rw [hline, hline, List.append_cancel_left_eq,
    append_cons_inj_of_not_mem (htype a) (htype b), List.cons.injEq, eq_self, true_and,
    append_cons_inj_of_not_mem (hlabel a) (hlabel b), String.toList_inj, String.toList_inj]

theorem outlineLines_literal (x : Float) :
    (literal x).outlineLines maxLabel lead last = outlineHead maxLabel lead last (literal x) := rfl

theorem outlineLines_binary (op : BinaryOp) (l r : Expr) :
    (binary op l r).outlineLines maxLabel lead last =
      outlineHead maxLabel lead last (binary op l r) ++
        l.outlineLines maxLabel (lead ++ (if last then "  " else "│ ")) false ++
        r.outlineLines maxLabel (lead ++ (if last then "  " else "│ ")) true := rfl

/-- The outline and what stands after it are known from the text of both. -/
theorem outlineLines_append_iff (maxLabel : Nat) (lead : String) (last : Bool) (a b : Expr)
    (rest rest' : List Char) :
    (a.outlineLines maxLabel lead last).toList ++ rest =
        (b.outlineLines maxLabel lead last).toList ++ rest' ↔
      a.labelled (fun x => cutLabel maxLabel (Decimal.plain.text x)) =
        b.labelled (fun x => cutLabel maxLabel (Decimal.plain.text x)) ∧ rest = rest' := by
  induction a generalizing b lead last rest rest' with
  | literal x =>
    cases b with
    | literal y =>
      rw [outlineLines_literal, outlineLines_literal, outlineHead_append_iff]
      simp [nodeType, label, labelled]
    | binary op l r =>
      rw [outlineLines_literal, outlineLines_binary, String.append_assoc, String.toList_append,
        List.append_assoc, outlineHead_append_iff]
      exact iff_of_false (fun h => op.name_ne_literal h.1.symm) (by simp [labelled])
  | binary op l r ihl ihr =>
    cases b with
    | literal y =>
      rw [outlineLines_literal, outlineLines_binary, String.append_assoc, String.toList_append,
        List.append_assoc, outlineHead_append_iff]
      exact iff_of_false (fun h => op.name_ne_literal h.1) (by simp [labelled])
    | binary op' l' r' =>
      simp only [outlineLines_binary, String.toList_append, List.append_assoc, outlineHead_append_iff,
        ihl _ _ l', ihr _ _ r', labelled, Labelled.binary.injEq, nodeType, BinaryOp.name_inj]
      -- The labels of two signs are the same if the signs are.
      constructor
      · rintro ⟨rfl, -, hl, hr, hrest⟩
        exact ⟨⟨rfl, hl, hr⟩, hrest⟩
      · rintro ⟨⟨rfl, hl, hr⟩, hrest⟩
        exact ⟨rfl, rfl, hl, hr, hrest⟩

/-- The lines of an outline are those of the nodes, one for each. Every node that a way leads to has its
line, the root before its operands and the left operand with all below it before the right one, and
in front of a node is drawn which way leads to it. Two expressions have the same outline exactly if
they have the same shape and operations, and numbers with the same text up to where it is cut. -/
theorem outline_layout (maxLabel : Nat) :
    let cut := fun label : String =>
      if maxLabel < label.length then String.ofList (label.toList.take maxLabel) ++ "..." else label
    (drawn [] = "└─" ∧ ∀ way side, drawn (way ++ [side]) =
      "  " ++ String.join (way.map Side.rail) ++ side.branch) ∧
    (∀ e : Expr,
      Text.lines (e.outline maxLabel) = (e.preorder.map fun n =>
        drawn n.1 ++ " " ++ n.2.nodeType ++ ": " ++ cut n.2.label) ∧
      e.outline maxLabel = String.join ((Text.lines (e.outline maxLabel)).map (· ++ "\n")) ∧
      (Text.lines (e.outline maxLabel)).length = e.nodeCount ∧
      (∀ way node, (way, node) ∈ e.preorder ↔ e.at? way = some node) ∧
      e.preorder.Pairwise fun x y => Before x.1 y.1) ∧
    ∀ a b : Expr, a.outline maxLabel = b.outline maxLabel ↔
      a.labelled (fun x => cut (Decimal.plain.text x)) =
        b.labelled (fun x => cut (Decimal.plain.text x)) := by
  intro cut
  refine ⟨⟨rfl, drawn_concat⟩, fun e => ⟨lines_outline maxLabel e, ?_, ?_, fun way node => mem_preorder,
    pairwise_preorder e⟩, fun a b => ?_⟩
  · rw [lines_outline]
    exact outline_eq maxLabel e
  · rw [lines_outline, List.length_map, length_preorder]
  · have h := outlineLines_append_iff maxLabel "" true a b [] []
    simp only [List.append_nil, String.toList_inj, and_true] at h
    exact h

/-- Two expressions with the same outline up to one character of a label, and not up to two. -/
theorem outline_layout_of_cut :
    let e := fun x => binary .sub (binary .add (literal 1) (literal x)) (literal 3)
    (e 25).outline 1 =
      "└─ sub: -\n  ├─ add: +\n  │ ├─ literal: 1\n  │ └─ literal: 2...\n  └─ literal: 3\n" ∧
    Text.lines ((e 25).outline 1) =
      ["└─ sub: -", "  ├─ add: +", "  │ ├─ literal: 1", "  │ └─ literal: 2...", "  └─ literal: 3"] ∧
    (e 25).outline 1 = (e 29).outline 1 ∧ (e 25).outline 2 ≠ (e 29).outline 2 := by
  intro e
  obtain ⟨-, hlines, hone⟩ := outline_layout 1
  obtain ⟨-, -, htwo⟩ := outline_layout 2
  refine ⟨by decide +kernel, (hlines (e 25)).1.trans (by decide +kernel),
    (hone _ _).2 (by decide +kernel), fun h => ?_⟩
  exact absurd ((htwo _ _).1 h) (by decide +kernel)

end Expr

end Reckoner
