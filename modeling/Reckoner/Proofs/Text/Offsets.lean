import Mathlib.Data.List.DropRight
import Reckoner.Lexer.ByIndex
import Reckoner.Proofs.Text.Lines

/-! Offsets as the text before them. An offset that a part of the text ends at is a boundary, the text
between two of them is what stands there, and the position of an offset is told by the line feeds
before it. The search among the beginnings of the lines finds this position. -/

namespace Reckoner

/-- The position after `before`: the number of its line feeds, and the bytes after the last of them. -/
def Position.after (before : List Char) : Position :=
  ⟨before.count '\n', Text.byteLength (before.rtakeWhile (· ≠ '\n'))⟩

namespace Text

variable {text : String} {c : Char} {before word after cs : List Char}

theorem eq_append_of_toList (h : text.toList = before ++ after) :
    text = String.ofList before ++ String.ofList after := by
  rw [← String.ofList_append, ← h, String.ofList_toList]

theorem isValid_of_toList (h : text.toList = before ++ after) :
    String.Pos.Raw.IsValid text ⟨byteLength before⟩ := by
  refine String.Pos.Raw.isValid_iff_exists_append.2 ⟨_, _, eq_append_of_toList h, ?_⟩
  rw [String.Pos.Raw.ext_iff, String.byteIdx_rawEndPos, utf8ByteSize_ofList]

theorem pos?_eq_some {p : text.Pos} {left right : String} (h : p.Splits left right) :
    text.pos? ⟨left.utf8ByteSize⟩ = some p := by
  have hoffset : (⟨left.utf8ByteSize⟩ : String.Pos.Raw) = p.offset := h.offset_eq_rawEndPos.symm
  have hvalid : p.offset.isValidForSlice text.toSlice = true :=
    String.Pos.Raw.isValidForSlice_eq_true_iff.2 p.isValid.toSlice
  rw [hoffset, String.pos?, String.Slice.pos?, dif_pos hvalid]
  rfl

theorem slice?_of_toList (h : text.toList = before ++ word ++ after) :
    slice? text (byteLength before) (byteLength before + byteLength word) =
      some (String.ofList word) := by
  have htext : text = String.ofList before ++ (String.ofList word ++ String.ofList after) := by
    rw [← String.ofList_append]
    exact eq_append_of_toList (h.trans (List.append_assoc _ _ _))
  have htext' : text = (String.ofList before ++ String.ofList word) ++ String.ofList after := by
    rw [String.append_assoc]
    exact htext
  have hp := String.Pos.splits_ofEqAppend htext
  have hq := String.Pos.splits_ofEqAppend htext'
  obtain ⟨hle, hcopy⟩ := String.copy_slice_eq_iff_splits.2 ⟨_, _, hp, hq⟩
  have hstart := pos?_eq_some hp
  have hstop := pos?_eq_some hq
  rw [String.utf8ByteSize_append, utf8ByteSize_ofList, utf8ByteSize_ofList] at hstop
  rw [utf8ByteSize_ofList] at hstart
  simp [slice?, hstart, hstop, String.slice?, hle, hcopy]

theorem rtakeWhile_unlines (done : List (List Char)) {tail : List Char} (htail : '\n' ∉ tail) :
    (unlines done ++ tail).rtakeWhile (· ≠ '\n') = tail := by
  have hfeeds : (unlines done).reverse.takeWhile (· ≠ '\n') = [] := by
    rcases List.eq_nil_or_concat done with rfl | ⟨done, line, rfl⟩
    · rfl
    · simp [unlines]
  have hword : ∀ c ∈ tail.reverse, decide (c ≠ '\n') = true := fun c hc =>
    decide_eq_true fun heq => htail (heq ▸ List.mem_reverse.1 hc)
  rw [List.rtakeWhile, List.reverse_append, List.takeWhile_append_of_pos hword, hfeeds,
    List.append_nil, List.reverse_reverse]

theorem count_unlines {done : List (List Char)} (hdone : ∀ line ∈ done, '\n' ∉ line) :
    (unlines done).count '\n' = done.length := by
  induction done with
  | nil => rfl
  | cons line done ih =>
    obtain ⟨hline, hdone⟩ := List.forall_mem_cons.1 hdone
    rw [unlines_cons, List.count_append, List.count_eq_zero_of_not_mem hline, List.count_cons_self,
      ih hdone, List.length_cons, Nat.zero_add]

/-- The line feeds before an offset tell its position. -/
theorem position_eq_after (h : text.toList = before ++ after) :
    (LineIndex.ofText text).position (byteLength before) = .after before := by
  obtain ⟨done, tail, rfl, hdone, htail⟩ := exists_lines before
  rw [LineIndex.ofText, h, position_unlines hdone htail, Position.after,
    rtakeWhile_unlines done htail, List.count_append, count_unlines hdone,
    List.count_eq_zero_of_not_mem htail, Nat.add_zero]

section ByIndex

theorem length_charIndices (offset : Nat) (cs : List Char) :
    (charIndices offset cs).length = cs.length := by
  induction cs generalizing offset with
  | nil => rfl
  | cons c cs ih => rw [charIndices, List.length_cons, ih, List.length_cons]

theorem charIndices_append (offset : Nat) (cs ds : List Char) :
    charIndices offset (cs ++ ds) =
      charIndices offset cs ++ charIndices (offset + byteLength cs) ds := by
  induction cs generalizing offset with
  | nil => rfl
  | cons c cs ih => simp [charIndices, byteLength, ih, Nat.add_assoc]

theorem map_snd_charIndices (offset : Nat) (cs : List Char) :
    (charIndices offset cs).map Prod.snd = cs := by
  induction cs generalizing offset with
  | nil => rfl
  | cons c cs ih => rw [charIndices, List.map_cons, ih]

theorem drop_charIndices (before cs : List Char) :
    (charIndices 0 (before ++ cs)).drop before.length = charIndices (byteLength before) cs := by
  have hlength := length_charIndices 0 before
  rw [charIndices_append, ← hlength, List.drop_left, Nat.zero_add]

theorem getElem?_charIndices (before cs : List Char) :
    (charIndices 0 (before ++ cs))[before.length]? = cs.head?.map (byteLength before, ·) := by
  rw [← List.head?_drop, drop_charIndices]
  cases cs <;> rfl

theorem lineStarts_pairwise (o : Nat) (cs : List Char) :
    (o :: lineStarts o cs).Pairwise (· < ·) := by
  refine List.pairwise_cons.2 ⟨fun s hs => lt_of_mem_lineStarts hs, ?_⟩
  induction cs generalizing o with
  | nil => exact .nil
  | cons c cs ih =>
    unfold lineStarts
    split
    · exact List.pairwise_cons.2 ⟨fun s hs => lt_of_mem_lineStarts hs, ih _⟩
    · exact ih _

variable {s offset : Nat} {starts : List Nat}

/-- The search finds the last number that is not above the offset, or the place after it. -/
theorem search_eq (h : (s :: starts).Pairwise (· < ·)) (hs : s ≤ offset) :
    let passed := starts.takeWhile (· ≤ offset)
    search offset (s :: starts) =
      if passed.getLastD s = offset then .ok passed.length else .error (passed.length + 1) := by
  induction starts generalizing s with
  | nil =>
    by_cases heq : s = offset
    · simp [search, heq]
    · simp [search, heq, Nat.lt_of_le_of_ne hs heq]
  | cons x starts ih =>
    obtain ⟨habove, htail⟩ := List.pairwise_cons.1 h
    have hsx := habove x List.mem_cons_self
    intro passed
    by_cases hx : x ≤ offset
    · have hpassed : passed = x :: starts.takeWhile (· ≤ offset) :=
        List.takeWhile_cons_of_pos (decide_eq_true hx)
      rw [search, if_pos (Nat.lt_of_lt_of_le hsx hx), ih htail hx, hpassed, List.getLastD_cons]
      by_cases heq : (starts.takeWhile (· ≤ offset)).getLastD x = offset
      · simp only [heq, if_true, List.length_cons]
      · simp only [heq, if_false, List.length_cons]
    · have hpassed : passed = [] := List.takeWhile_cons_of_neg (by simpa using hx)
      have hstop : search offset (x :: starts) = .error 0 := by
        rw [search, if_neg (by omega), if_neg (by omega)]
      by_cases heq : s = offset
      · simp [search, heq, hpassed]
      · rw [search, if_pos (Nat.lt_of_le_of_ne hs heq), hstop, hpassed]
        exact (if_neg heq).symm

theorem getElem?_length_takeWhile (p : Nat → Bool) (s : Nat) (starts : List Nat) :
    (s :: starts)[(starts.takeWhile p).length]? = some ((starts.takeWhile p).getLastD s) := by
  induction starts generalizing s with
  | nil => rfl
  | cons x starts ih =>
    by_cases hx : p x = true
    · rw [List.takeWhile_cons_of_pos hx, List.length_cons, List.getElem?_cons_succ, ih,
        List.getLastD_cons]
    · rw [List.takeWhile_cons_of_neg hx]
      rfl

theorem getLastD_takeWhile_le (hs : s ≤ offset) (starts : List Nat) :
    (starts.takeWhile (· ≤ offset)).getLastD s ≤ offset := by
  have hpassed : ∀ x ∈ starts.takeWhile (· ≤ offset), x ≤ offset := fun x hx => by
    simpa using List.mem_takeWhile_imp hx
  rw [List.getLastD_eq_getLast?]
  cases hlast : (starts.takeWhile (· ≤ offset)).getLast? with
  | none => exact hs
  | some x => exact hpassed x (List.mem_of_getLast? hlast)

/-- The search among the beginnings of the lines finds the position of every offset. -/
theorem lookup?_eq (cs : List Char) (offset : Nat) :
    lookup? (0 :: lineStarts 0 cs) offset = some ((LineIndex.ofChars cs).position offset) := by
  have hsearch := search_eq (lineStarts_pairwise 0 cs) (Nat.zero_le offset)
  have hstart := getElem?_length_takeWhile (· ≤ offset) 0 (lineStarts 0 cs)
  have hle := getLastD_takeWhile_le (Nat.zero_le offset) (lineStarts 0 cs)
  rw [lookup?, hsearch]
  by_cases heq : ((lineStarts 0 cs).takeWhile (· ≤ offset)).getLastD 0 = offset
  all_goals
    simp [-List.getLastD_eq_getLast?, heq, hstart, hle, LineIndex.position, LineIndex.ofChars]

end ByIndex

end Text

end Reckoner
