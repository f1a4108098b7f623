import Mathlib.Data.List.Sort
import Mathlib.Data.List.TakeWhile
import Reckoner.Proofs.Text.Offsets

/-! Positions from the bytes of a text. A line feed is one byte, and no byte of another character is equal
to it, so the line of an offset is the number of line feeds among the bytes below it, and the column
is the distance from the last of them. Offsets may lie inside a character or past the end, and they
are ordered as their positions are, `LineIndex.position_by_bytes`. -/

namespace Reckoner

theorem Position.compare_eq_lt {p q : Position} :
    p.compare q = .lt ↔ p.line < q.line ∨ p.line = q.line ∧ p.column < q.column := by
  simp [compare, Ordering.then_eq_lt, Nat.compare_eq_lt]

namespace Text

/-- The bytes that encode a text. -/
def bytes (text : String) : List UInt8 := text.toUTF8.data.toList

/-- The byte of a line feed. -/
def feed : UInt8 := 10

/-- The indices below `offset` at which a text has a line feed, in ascending order. -/
def feedsBelow (text : String) (offset : Nat) : List Nat :=
  (List.range offset).filter fun i => (bytes text)[i]? = some feed

theorem bytes_eq (text : String) : bytes text = text.toList.flatMap String.utf8EncodeChar := by
  have htext : text.toUTF8 = (String.ofList text.toList).toByteArray := by
    rw [String.ofList_toList]
    rfl
  rw [bytes, htext, String.toByteArray_ofList]
  exact List.toList_data_toByteArray

/-- A character of one byte is its code, and all bytes of longer characters are at least 128. -/
theorem feed_not_mem_utf8EncodeChar {c : Char} (h : c ≠ '\n') : feed ∉ String.utf8EncodeChar c := by
  have hcode : c.val.toNat ≠ 10 := fun hcode => h (Char.ext (UInt32.toNat_inj.1 hcode))
  have hbyte : ∀ n : Nat, n < 256 → n ≠ 10 → feed ≠ UInt8.ofNat n := by
    intro n hn hne heq
    have hnat := congrArg UInt8.toNat heq
    rw [UInt8.toNat_ofNat_of_lt' hn] at hnat
    exact hne hnat.symm
  simp only [String.utf8EncodeChar]
  split
  · rw [List.mem_singleton]
    exact hbyte _ (by omega) hcode
  split
  · simp only [List.mem_cons, List.not_mem_nil, or_false, not_or]
    refine ⟨?_, ?_⟩ <;> exact hbyte _ (by omega) (by omega)
  split
  · simp only [List.mem_cons, List.not_mem_nil, or_false, not_or]
    refine ⟨?_, ?_, ?_⟩ <;> exact hbyte _ (by omega) (by omega)
  · simp only [List.mem_cons, List.not_mem_nil, or_false, not_or]
    refine ⟨?_, ?_, ?_, ?_⟩ <;> exact hbyte _ (by omega) (by omega)

/-- Lines begin just after the bytes of line feeds. -/
theorem mem_lineStarts_iff {o s : Nat} {cs : List Char} :
    s ∈ lineStarts o cs ↔
      ∃ i, (cs.flatMap String.utf8EncodeChar)[i]? = some feed ∧ s = o + i + 1 := by
  induction cs generalizing o with
  | nil => simp [lineStarts]
  | cons c cs ih =>
    rw [lineStarts, List.flatMap_cons]
    split
    next hc =>
      subst hc
      have hsize : '\n'.utf8Size = 1 := by decide
      have hencoded : String.utf8EncodeChar '\n' = [feed] := by decide
      rw [List.mem_cons, ih, hencoded, hsize]
      constructor
      · rintro (rfl | ⟨i, hi, rfl⟩)
        · exact ⟨0, rfl, rfl⟩
        · exact ⟨i + 1, hi, by omega⟩
      · rintro ⟨i, hi, rfl⟩
        cases i with
        | zero => exact .inl rfl
        | succ i => exact .inr ⟨i, hi, by omega⟩
    next hc =>
      have hlength := String.length_utf8EncodeChar c
      rw [ih]
      constructor
      · rintro ⟨i, hi, rfl⟩
        refine ⟨c.utf8Size + i, ?_, by omega⟩
        rw [List.getElem?_append_right (by omega), hlength, Nat.add_sub_cancel_left, hi]
      · rintro ⟨i, hi, rfl⟩
        have hle : c.utf8Size ≤ i := by
          by_contra hlt
          rw [List.getElem?_append_left (by omega)] at hi
          exact feed_not_mem_utf8EncodeChar hc (List.mem_of_getElem? hi)
        rw [List.getElem?_append_right (by omega), hlength] at hi
        exact ⟨i - c.utf8Size, hi, by omega⟩

theorem mem_takeWhile_le {starts : List Nat} (h : starts.Pairwise (· < ·)) {s offset : Nat} :
    s ∈ starts.takeWhile (· ≤ offset) ↔ s ∈ starts ∧ s ≤ offset := by
  induction starts with
  | nil => simp
  | cons x starts ih =>
    obtain ⟨habove, htail⟩ := List.pairwise_cons.1 h
    by_cases hx : x ≤ offset
    · simp only [List.takeWhile_cons, hx, decide_true, if_true, List.mem_cons, ih htail]
      constructor
      · rintro (rfl | ⟨hs, hle⟩)
        · exact ⟨.inl rfl, hx⟩
        · exact ⟨.inr hs, hle⟩
      · rintro ⟨rfl | hs, hle⟩
        · exact .inl rfl
        · exact .inr ⟨hs, hle⟩
    · simp only [List.takeWhile_cons, hx, decide_false, Bool.false_eq_true, if_false, List.mem_cons,
        List.not_mem_nil, false_iff]
      rintro ⟨rfl | hs, hle⟩
      · exact hx hle
      · exact hx (Nat.le_trans (Nat.le_of_lt (habove s hs)) hle)

/-- The lines after the first that begin up to an offset are those after the line feeds below it. -/
theorem takeWhile_lineStarts (text : String) (offset : Nat) :
    (lineStarts 0 text.toList).takeWhile (· ≤ offset) = (feedsBelow text offset).map (· + 1) := by
  have hstarts := (List.pairwise_cons.1 (lineStarts_pairwise 0 text.toList)).2
  have hfeeds : (feedsBelow text offset).Pairwise (· < ·) := List.pairwise_lt_range.filter _
  refine (hstarts.sublist (List.takeWhile_sublist _)).eq_of_mem_iff
    (hfeeds.map _ fun _ _ h => Nat.succ_lt_succ h) fun s => ?_
  rw [mem_takeWhile_le hstarts, mem_lineStarts_iff, ← bytes_eq]
  simp only [feedsBelow, List.mem_map, List.mem_filter, List.mem_range, decide_eq_true_eq]
  constructor
  · rintro ⟨⟨i, hi, rfl⟩, hle⟩
    exact ⟨i, ⟨by omega, hi⟩, by omega⟩
  · rintro ⟨i, ⟨hlt, hi⟩, rfl⟩
    exact ⟨⟨i, hi, by omega⟩, hlt⟩

end Text

namespace LineIndex

theorem position_lt (index : LineIndex) {a b : Nat} (h : a < b) :
    (index.position a).compare (index.position b) = .lt := by
  have hle := Text.getLastD_takeWhile_le (Nat.zero_le a) index.later
  have hboth : index.later.takeWhile (· ≤ a) =
      (index.later.takeWhile (· ≤ b)).takeWhile (· ≤ a) := by
    rw [List.takeWhile_takeWhile]
    congr
    funext s
    simp
    omega
  have hprefix : index.later.takeWhile (· ≤ a) <+: index.later.takeWhile (· ≤ b) := by
    rw [hboth]
    exact List.takeWhile_prefix _
  refine Position.compare_eq_lt.2 ?_
  rcases Nat.lt_or_eq_of_le hprefix.length_le with hline | hline
  · exact .inl hline
  · -- In one line both columns count from the same beginning.
    refine .inr ⟨hline, ?_⟩
    show a - _ < b - _
    rw [← hprefix.eq_of_length hline]
    omega

theorem position_lt_iff (index : LineIndex) {a b : Nat} :
    (index.position a).compare (index.position b) = .lt ↔ a < b := by
  constructor
  · intro h
    rcases Nat.lt_trichotomy a b with hlt | rfl | hlt
    · exact hlt
    · simp [Position.compare_eq_lt] at h
    · have h' := Position.compare_eq_lt.1 (index.position_lt hlt)
      have h := Position.compare_eq_lt.1 h
      omega
  · exact index.position_lt

/-- The line of an offset is the number of line feeds among the bytes below it, and the column is the
distance from the byte after the last of them, or the offset itself if there is none. The search
among the beginnings of the lines finds this position for every offset. Positions are in the order of
their offsets. -/
theorem position_by_bytes (text : String) :
    (∀ offset,
      Text.lookup? (0 :: Text.lineStarts 0 text.toList) offset =
        some ((ofText text).position offset) ∧
      ((ofText text).position offset).line = (Text.feedsBelow text offset).length ∧
      ((ofText text).position offset).column =
        match (Text.feedsBelow text offset).getLast? with
        | some i => offset - (i + 1)
        | none => offset) ∧
    ∀ a b, a < b ↔ ((ofText text).position a).compare ((ofText text).position b) = .lt := by
  refine ⟨fun offset => ⟨Text.lookup?_eq _ _, ?_, ?_⟩, fun a b => (position_lt_iff _).symm⟩
  · simp only [position, ofText, ofChars, Text.takeWhile_lineStarts, List.length_map]
  · simp only [position, ofText, ofChars, Text.takeWhile_lineStarts, List.getLastD_eq_getLast?,
      List.getLast?_map]
    cases (Text.feedsBelow text offset).getLast? <;> rfl

end LineIndex

end Reckoner
