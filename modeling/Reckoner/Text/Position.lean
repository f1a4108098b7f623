/-! Places in a text. Offsets and columns count the bytes of the text's encoding; lines and columns
count from zero, and a line begins after every line feed. `LineIndex.position` finds the line and
column of an offset from the offsets at which lines begin. -/

namespace Reckoner

/-- A line, and the bytes of that line before the place. -/
structure Position where
  line : Nat
  column : Nat
  deriving DecidableEq

namespace Position

def start : Position := ⟨0, 0⟩

/-- A position as messages show it, `line:column`. -/
def text (p : Position) : String := toString p.line ++ ":" ++ toString p.column

/-- Positions are ordered by line, then by column. -/
def compare (p q : Position) : Ordering :=
  (Ord.compare p.line q.line).then (Ord.compare p.column q.column)

instance : Ord Position := ⟨Position.compare⟩

end Position

namespace Text

/-- The number of bytes that encode `cs`. -/
def byteLength : List Char → Nat
  | [] => 0
  | c :: cs => c.utf8Size + byteLength cs

@[simp] theorem byteLength_append (cs ds : List Char) :
    byteLength (cs ++ ds) = byteLength cs + byteLength ds := by
  induction cs with
  | nil => simp [byteLength]
  | cons c cs ih => simp [byteLength, ih, Nat.add_assoc]

theorem utf8ByteSize_ofList (cs : List Char) :
    (String.ofList cs).utf8ByteSize = byteLength cs := by
  induction cs with
  | nil => rfl
  | cons c cs ih =>
    have happend : String.ofList (c :: cs) = String.singleton c ++ String.ofList cs := by
      rw [String.singleton_eq_ofList, ← String.ofList_append]
      rfl
    rw [happend, String.utf8ByteSize_append, String.utf8ByteSize_singleton, ih]
    rfl

theorem byteLength_toList (text : String) : byteLength text.toList = text.utf8ByteSize := by
  rw [← utf8ByteSize_ofList, String.ofList_toList]

/-- The offsets just past the line feeds of `cs`, which begins at offset `o`. -/
def lineStarts (o : Nat) : List Char → List Nat
  | [] => []
  | c :: cs =>
    let next := o + c.utf8Size
    if c = '\n' then next :: lineStarts next cs else lineStarts next cs

theorem lineStarts_append (o : Nat) (cs ds : List Char) :
    lineStarts o (cs ++ ds) = lineStarts o cs ++ lineStarts (o + byteLength cs) ds := by
  induction cs generalizing o with
  | nil => rfl
  | cons c cs ih =>
    simp only [List.cons_append, lineStarts, byteLength, ih, Nat.add_assoc]
    split <;> rfl

theorem lt_of_mem_lineStarts {o s : Nat} {cs : List Char} (h : s ∈ lineStarts o cs) : o < s := by
  induction cs generalizing o with
  | nil => simp [lineStarts] at h
  | cons c cs ih =>
    have hsize := c.utf8Size_pos
    have hlater : s ∈ lineStarts (o + c.utf8Size) cs → o < s := fun h => by
      have := ih h
      omega
    unfold lineStarts at h
    split at h
    · rcases List.mem_cons.1 h with rfl | h
      · omega
      · exact hlater h
    · exact hlater h

end Text

/-- Where the lines of a text begin. -/
structure LineIndex where
  /-- The offsets at which the lines after the first begin, in ascending order. -/
  later : List Nat

namespace LineIndex

def ofChars (cs : List Char) : LineIndex := ⟨Text.lineStarts 0 cs⟩

def ofText (text : String) : LineIndex := ofChars text.toList

/-- The number of lines; the empty text has one. -/
def lineCount (index : LineIndex) : Nat := index.later.length + 1

/-- The line that `offset` falls on, which is the last one that begins at or before it, and the
bytes from the beginning of that line. An offset past the end falls on the last line. -/
def position (index : LineIndex) (offset : Nat) : Position :=
  let passed := index.later.takeWhile (· ≤ offset)
  ⟨passed.length, offset - passed.getLastD 0⟩

theorem position_append {cs : List Char} {o : Nat} (h : o ≤ Text.byteLength cs) (ds : List Char) :
    (ofChars (cs ++ ds)).position o = (ofChars cs).position o := by
  have hnone : (Text.lineStarts (0 + Text.byteLength cs) ds).takeWhile (· ≤ o) = [] := by
    cases hlater : Text.lineStarts (0 + Text.byteLength cs) ds with
    | nil => rfl
    | cons s starts =>
      have hlt := Text.lt_of_mem_lineStarts (hlater ▸ List.mem_cons_self)
      exact List.takeWhile_cons_of_neg (by simp only [decide_eq_true_eq]; omega)
  have hpassed : (Text.lineStarts 0 (cs ++ ds)).takeWhile (· ≤ o) =
      (Text.lineStarts 0 cs).takeWhile (· ≤ o) := by
    rw [Text.lineStarts_append, List.takeWhile_append, hnone, List.append_nil]
    split
    next hall => exact ((List.takeWhile_prefix _).eq_of_length hall).symm
    next => rfl
  simp only [position, ofChars, hpassed]

end LineIndex

end Reckoner
