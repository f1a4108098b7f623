import Reckoner.Proofs.Text.Lines

/-! The lines of an excerpt. If the text has the line of the position, the excerpt shows this line once
with the mark, the caret below it, and around them, without the mark, every line of the text that
is at most two away. -/

namespace Reckoner.Text

/-- Line `i` of a text as an excerpt shows it: behind the mark its number, counted from one and flush
right in three columns. -/
def shownLine (mark : String) (i : Nat) (line : String) : String :=
  mark ++ " " ++ String.ofList ((toString (i + 1)).toList.leftpad 3 ' ') ++ " | " ++ line

def isMarked (line : String) : Bool := ">>".toList.isPrefixOf line.toList

/-- The line below the marked one. Nine characters stand in front of a line with a short number. -/
def caretLine (column : Nat) : String := String.ofList (List.replicate (column + 9) ' ') ++ "^"

/-- The lines at most two away from line `n` whose numbers pass the test, without the mark. -/
def linesNear (text : String) (n : Nat) (test : Nat → Bool) : List String :=
  ((lines text).zipIdx.filter fun l => test l.2 && decide (l.2 ≤ n + 2 ∧ n ≤ l.2 + 2)).map fun l =>
    shownLine "  " l.2 l.1

/-- The lines of an excerpt at `p`, where line `p.line` of the text is `line`. -/
def excerptLines (text : String) (p : Position) (line : String) : List String :=
  linesNear text p.line (· < p.line) ++ [shownLine ">>" p.line line, caretLine p.column] ++
    linesNear text p.line (p.line < ·)

variable {text line : String} {p : Position} {before after : List String}

/-- The elements whose numbers are between two bounds are a part of the list. -/
theorem filter_zipIdx {α : Type} {xs : List α} {k a b : Nat} {test : Nat → Bool}
    (h : ∀ i, k ≤ i → (test i = true ↔ k + a ≤ i ∧ i < k + b)) :
    ((xs.zipIdx k).filter fun x => test x.2) = ((xs.take b).drop a).zipIdx (k + a) := by
  induction xs generalizing k a b with
  | nil => simp
  | cons x xs ih =>
    have hk := h k (Nat.le_refl k)
    -- The bounds of the tail, whose numbers begin one higher, are each one lower.
    have htail : ∀ i, k + 1 ≤ i → (test i = true ↔ k + 1 + (a - 1) ≤ i ∧ i < k + 1 + (b - 1)) := by
      intro i hi
      rw [h i (by omega)]
      omega
    rw [List.zipIdx_cons, List.filter_cons, ih htail]
    cases b with
    | zero => simp [hk]
    | succ b =>
      cases a with
      | zero => simp [hk]
      | succ a => simp [hk, Nat.add_assoc, Nat.add_comm 1 a]

/-- Of the lines before a line, the last two are near it. -/
theorem linesNear_before (htext : lines text = before ++ line :: after) :
    linesNear text before.length (· < before.length) =
      ((before.drop (before.length - 2)).zipIdx (before.length - 2)).map fun l =>
        shownLine "  " l.2 l.1 := by
  have hnear : ∀ i, 0 ≤ i → ((decide (i < before.length) &&
      decide (i ≤ before.length + 2 ∧ before.length ≤ i + 2)) = true ↔
      0 + (before.length - 2) ≤ i ∧ i < 0 + before.length) := by
    intro i _
    simp only [Bool.and_eq_true, decide_eq_true_eq]
    omega
  rw [linesNear, filter_zipIdx hnear, htext, List.take_left, Nat.zero_add]

/-- Of the lines after a line, the first two are near it. -/
theorem linesNear_after (htext : lines text = before ++ line :: after) :
    linesNear text before.length (before.length < ·) =
      ((after.take 2).zipIdx (before.length + 1)).map fun l => shownLine "  " l.2 l.1 := by
  have hnear : ∀ i, 0 ≤ i → ((decide (before.length < i) &&
      decide (i ≤ before.length + 2 ∧ before.length ≤ i + 2)) = true ↔
      0 + (before.length + 1) ≤ i ∧ i < 0 + (before.length + 3)) := by
    intro i _
    simp only [Bool.and_eq_true, decide_eq_true_eq]
    omega
  have htake : (before ++ line :: after).take (before.length + 3) = before ++ line :: after.take 2 := by
    rw [List.take_length_add_append]
    rfl
  rw [linesNear, filter_zipIdx hnear, htext, htake, List.drop_length_add_append, Nat.zero_add]
  rfl

theorem gutterNumber_eq (n : Nat) :
    gutterNumber n = String.ofList ((toString n).toList.leftpad 3 ' ') := by
  rw [gutterNumber, blanks, List.leftpad, String.ofList_append, String.ofList_toList,
    String.length_toList]

theorem excerptLine_of_ne {i : Nat} (h : i ≠ p.line) (line : String) :
    excerptLine p i line = shownLine "  " i line ++ "\n" := by
  rw [excerptLine, if_neg h, gutterNumber_eq]
  rfl

theorem excerptLine_line (p : Position) (line : String) :
    excerptLine p p.line line = shownLine ">>" p.line line ++ "\n" ++ (caretLine p.column ++ "\n") := by
  rw [excerptLine, if_pos rfl, gutterNumber_eq, blanks, gutterWidth]
  simp [shownLine, caretLine, String.append_assoc]

theorem map_excerptLine_of_ne (ls : List String) (k : Nat)
    (h : ∀ i, k ≤ i → i < k + ls.length → i ≠ p.line) :
    ((ls.zipIdx k).map fun l => excerptLine p l.2 l.1) =
      ((ls.zipIdx k).map fun l => shownLine "  " l.2 l.1).map (· ++ "\n") := by
  rw [List.map_map]
  refine List.map_congr_left fun l hl => ?_
  obtain ⟨hle, hlt, _⟩ := List.mem_zipIdx hl
  exact excerptLine_of_ne (h l.2 hle hlt) l.1

theorem excerpt_eq_map (text : String) (p : Position) :
    excerpt text p =
      String.join (((((lines text).take (p.line + 3)).drop (p.line - 2)).zipIdx (p.line - 2)).map
        fun l => excerptLine p l.2 l.1) := by
  rw [excerpt, List.zipIdx_eq_map_add, List.map_map, List.mapIdx_eq_zipIdx_map]
  rfl

theorem exists_of_getElem? {α : Type} {xs : List α} {n : Nat} {x : α} (h : xs[n]? = some x) :
    ∃ before after, xs = before ++ x :: after ∧ before.length = n := by
  obtain ⟨hn, rfl⟩ := List.getElem?_eq_some_iff.1 h
  refine ⟨xs.take n, xs.drop (n + 1), ?_, List.length_take_of_le (Nat.le_of_lt hn)⟩
  rw [List.getElem_cons_drop, List.take_append_drop]

theorem excerpt_eq (h : (lines text)[p.line]? = some line) :
    excerpt text p = String.join ((excerptLines text p line).map (· ++ "\n")) := by
  obtain ⟨before, after, htext, hline⟩ := exists_of_getElem? h
  have hshown : ((lines text).take (p.line + 3)).drop (p.line - 2) =
      before.drop (p.line - 2) ++ line :: after.take 2 := by
    rw [htext, ← hline, List.take_length_add_append, List.drop_append_of_le_length (by omega)]
    rfl
  -- The numbers run on from the first line shown, so the marked line has its own number.
  have hnumbers : p.line - 2 + (before.drop (p.line - 2)).length = p.line := by
    rw [List.length_drop]
    omega
  have hbefore := map_excerptLine_of_ne (p := p) (before.drop (p.line - 2)) (p.line - 2)
    fun i _ hi => by omega
  have hafter := map_excerptLine_of_ne (p := p) (after.take 2) (p.line + 1) fun i hi _ => by omega
  have hnear := linesNear_before htext
  have hnear' := linesNear_after htext
  rw [hline] at hnear hnear'
  rw [excerpt_eq_map, hshown, List.zipIdx_append, hnumbers, List.zipIdx_cons, List.map_append,
    List.map_cons, hbefore, hafter, excerptLine_line, ← hnear, ← hnear']
  refine String.toList_injective ?_
  simp [excerptLines, String.toList_join]

theorem feed_not_mem_shownLine {mark : String} (hmark : '\n' ∉ mark.toList) (i : Nat)
    (hline : '\n' ∉ line.toList) : '\n' ∉ (shownLine mark i line).toList := by
  have hdigits : '\n' ∉ Nat.toDigits 10 (i + 1) := fun h =>
    absurd (Nat.isDigit_of_mem_toDigits (by decide) (by decide) h) (by decide)
  simp [shownLine, List.leftpad, hmark, hline, hdigits]

theorem feed_not_mem_of_mem_lines (h : line ∈ lines text) : '\n' ∉ line.toList := by
  obtain ⟨cs, hcs, rfl⟩ := List.mem_map.1 h
  rw [String.toList_ofList]
  exact not_mem_of_mem_splitLines hcs

theorem feed_not_mem_of_mem_linesNear {n : Nat} {test : Nat → Bool} {l : String}
    (h : l ∈ linesNear text n test) : '\n' ∉ l.toList := by
  obtain ⟨⟨line, i⟩, hmem, rfl⟩ := List.mem_map.1 h
  obtain ⟨_, _, hget⟩ := List.mem_zipIdx (List.mem_filter.1 hmem).1
  have hline : line ∈ lines text := hget ▸ List.getElem_mem _
  exact feed_not_mem_shownLine (by decide) i (feed_not_mem_of_mem_lines hline)

theorem feed_not_mem_of_mem_excerptLines (h : (lines text)[p.line]? = some line) :
    ∀ l ∈ excerptLines text p line, '\n' ∉ l.toList := by
  intro l hl
  simp only [excerptLines, List.mem_append, List.mem_cons, List.not_mem_nil, or_false] at hl
  rcases hl with (hbefore | rfl | rfl) | hafter
  · exact feed_not_mem_of_mem_linesNear hbefore
  · exact feed_not_mem_shownLine (by decide) _ (feed_not_mem_of_mem_lines (List.mem_of_getElem? h))
  · simp [caretLine]
  · exact feed_not_mem_of_mem_linesNear hafter

theorem unmarked_linesNear (text : String) (n : Nat) (test : Nat → Bool) :
    (linesNear text n test).filter isMarked = [] := by
  refine List.filter_eq_nil_iff.2 fun l hl => ?_
  obtain ⟨l, _, rfl⟩ := List.mem_map.1 hl
  simp [isMarked, shownLine, List.isPrefixOf]

theorem marked_excerptLines (text : String) (p : Position) (line : String) :
    (excerptLines text p line).filter isMarked = [shownLine ">>" p.line line] := by
  have hmarked : isMarked (shownLine ">>" p.line line) = true := by
    simp [isMarked, shownLine, List.isPrefixOf]
  have hcaret : isMarked (caretLine p.column) = false := by
    simp [isMarked, caretLine, List.replicate_succ, List.isPrefixOf]
  simp [excerptLines, unmarked_linesNear, hmarked, hcaret]

end Reckoner.Text
