import Reckoner.Text.Lines

/-! Two ways to count lines agree where characters stand. `LineIndex.position` counts line feeds, and
`Text.lines` cuts at them, leaves out a carriage return before each, and has no empty last line. A
character that ends no line stands in the line with the number that the index gives, as many
bytes after its beginning. -/

namespace Reckoner

namespace Text

variable {c : Char} {cs line tail word rest : List Char} {done : List (List Char)}

/-- Lines with a line feed after each. -/
def unlines (done : List (List Char)) : List Char := done.flatMap (· ++ ['\n'])

@[simp] theorem unlines_nil : unlines [] = [] := rfl

@[simp] theorem unlines_cons (line : List Char) (done : List (List Char)) :
    unlines (line :: done) = line ++ '\n' :: unlines done := by
  simp [unlines]

/-- Every text is some lines and a tail without a line feed. -/
theorem exists_lines (cs : List Char) : ∃ (done : List (List Char)) (tail : List Char),
    cs = unlines done ++ tail ∧ (∀ line ∈ done, '\n' ∉ line) ∧ '\n' ∉ tail := by
  induction cs with
  | nil => exact ⟨[], [], rfl, by simp, by simp⟩
  | cons c cs ih =>
    obtain ⟨done, tail, rfl, hdone, htail⟩ := ih
    by_cases hc : c = '\n'
    · exact ⟨[] :: done, tail, by simp [hc], by simpa using hdone, htail⟩
    cases done with
    | nil => exact ⟨[], c :: tail, rfl, by simp, by simpa [Ne.symm hc] using htail⟩
    | cons line done =>
      obtain ⟨hline, hdone⟩ := List.forall_mem_cons.1 hdone
      refine ⟨(c :: line) :: done, tail, by simp, List.forall_mem_cons.2 ⟨?_, hdone⟩, htail⟩
      simpa [Ne.symm hc] using hline

theorem lineStarts_of_not_mem (o : Nat) (h : '\n' ∉ cs) : lineStarts o cs = [] := by
  induction cs generalizing o with
  | nil => rfl
  | cons c cs ih =>
    obtain ⟨hc, hcs⟩ := List.ne_and_not_mem_of_not_mem_cons h
    simp [lineStarts, Ne.symm hc, ih _ hcs]

theorem position_of_not_mem (h : '\n' ∉ cs) (o : Nat) :
    (LineIndex.ofChars cs).position o = ⟨0, o⟩ := by
  rw [LineIndex.position, LineIndex.ofChars, lineStarts_of_not_mem 0 h]
  rfl

theorem byteLength_unlines_cons (line : List Char) (done : List (List Char)) :
    byteLength (unlines (line :: done)) = byteLength line + 1 + byteLength (unlines done) := by
  have hfeed : '\n'.utf8Size = 1 := by decide
  simp [byteLength, hfeed, Nat.add_assoc]

theorem lineStarts_unlines_cons (o : Nat) (hline : '\n' ∉ line) (done : List (List Char)) :
    lineStarts o (unlines (line :: done)) =
      (o + byteLength line + 1) :: lineStarts (o + byteLength line + 1) (unlines done) := by
  have hfeed : '\n'.utf8Size = 1 := by decide
  simp [lineStarts_append, lineStarts_of_not_mem o hline, lineStarts, hfeed]

/-- A line begins after each line feed, and the last where the lines before it end. -/
theorem lineStarts_unlines (o : Nat) (hdone : ∀ line ∈ done, '\n' ∉ line) :
    (lineStarts o (unlines done)).length = done.length ∧
      (lineStarts o (unlines done)).getLastD o = o + byteLength (unlines done) ∧
      ∀ s ∈ lineStarts o (unlines done), s ≤ o + byteLength (unlines done) := by
  induction done generalizing o with
  | nil => simp [lineStarts, byteLength]
  | cons line done ih =>
    obtain ⟨hline, hdone⟩ := List.forall_mem_cons.1 hdone
    obtain ⟨hlength, hlast, hle⟩ := ih (o + byteLength line + 1) hdone
    rw [lineStarts_unlines_cons o hline, byteLength_unlines_cons]
    refine ⟨by rw [List.length_cons, List.length_cons, hlength], ?_, fun s hs => ?_⟩
    · rw [List.getLastD_cons, hlast]
      omega
    · rcases List.mem_cons.1 hs with rfl | hs
      · omega
      · have := hle s hs
        omega

/-- A character that does not end a line is put before what the rest begins with. -/
theorem splitLines_cons (hc : c ≠ '\n') (hreturn : c = '\r' → cs.head? ≠ some '\n') :
    splitLines (c :: cs) =
      match splitLines cs with
      | [] => [[c]]
      | line :: lines => (c :: line) :: lines := by
  rw [splitLines.eq_def]
  split
  next h => cases h
  next h => exact absurd (List.cons.inj h).1 hc
  next h =>
    obtain ⟨rfl, rfl⟩ := List.cons.inj h
    exact absurd rfl (hreturn rfl)
  next h =>
    obtain ⟨rfl, rfl⟩ := List.cons.inj h
    rfl

theorem splitLines_line (hline : '\n' ∉ line) (rest : List Char) :
    ∃ first, splitLines (line ++ '\n' :: rest) = first :: splitLines rest := by
  induction line with
  | nil => exact ⟨[], by simp [splitLines]⟩
  | cons c line ih =>
    obtain ⟨hc, htail⟩ := List.ne_and_not_mem_of_not_mem_cons hline
    obtain ⟨first, hfirst⟩ := ih htail
    by_cases hreturn : c = '\r' ∧ line = []
    · obtain ⟨rfl, rfl⟩ := hreturn
      exact ⟨[], by simp [splitLines]⟩
    · refine ⟨c :: first, ?_⟩
      rw [List.cons_append, splitLines_cons (Ne.symm hc), hfirst]
      rintro rfl
      cases line with
      | nil => exact absurd ⟨rfl, rfl⟩ hreturn
      | cons d line => exact fun h => htail (Option.some.inj h ▸ List.mem_cons_self)

theorem splitLines_lines (hdone : ∀ line ∈ done, '\n' ∉ line) (rest : List Char) :
    ∃ first : List (List Char), first.length = done.length ∧
      splitLines (unlines done ++ rest) = first ++ splitLines rest := by
  induction done with
  | nil => exact ⟨[], rfl, rfl⟩
  | cons line done ih =>
    obtain ⟨hline, hdone⟩ := List.forall_mem_cons.1 hdone
    obtain ⟨first, hlength, hfirst⟩ := ih hdone
    obtain ⟨l, hl⟩ := splitLines_line hline (unlines done ++ rest)
    refine ⟨l :: first, by simp [hlength], ?_⟩
    rw [unlines_cons, List.append_assoc, List.cons_append, hl, hfirst]
    rfl

theorem splitLines_append_feed (hfeed : '\n' ∉ line) (hreturn : '\r' ∉ line) (rest : List Char) :
    splitLines (line ++ '\n' :: rest) = line :: splitLines rest := by
  induction line with
  | nil => rfl
  | cons c line ih =>
    obtain ⟨hc, hfeed⟩ := List.ne_and_not_mem_of_not_mem_cons hfeed
    obtain ⟨hc', hreturn⟩ := List.ne_and_not_mem_of_not_mem_cons hreturn
    rw [List.cons_append, splitLines_cons (Ne.symm hc) fun h => absurd h.symm hc', ih hfeed hreturn]

/-- A text in which no line ends. -/
def IsLine (s : String) : Prop := '\n' ∉ s.toList ∧ '\r' ∉ s.toList

instance (s : String) : Decidable (IsLine s) := inferInstanceAs (Decidable (_ ∧ _))

theorem isLine_append {s t : String} : IsLine (s ++ t) ↔ IsLine s ∧ IsLine t := by
  simp only [IsLine, String.toList_append, List.mem_append, not_or]
  exact and_and_and_comm

theorem isLine_join {ls : List String} (h : ∀ l ∈ ls, IsLine l) : IsLine (String.join ls) := by
  simp only [IsLine, String.toList_join, List.mem_flatMap, not_exists, not_and]
  exact ⟨fun l hl => (h l hl).1, fun l hl => (h l hl).2⟩

/-- A text that is put together from lines has these lines. -/
theorem lines_join {ls : List String} (hls : ∀ l ∈ ls, IsLine l) (rest : String) :
    lines (String.join (ls.map (· ++ "\n")) ++ rest) = ls ++ lines rest := by
  rw [lines, String.toList_append, String.toList_join]
  induction ls with
  | nil => rfl
  | cons l ls ih =>
    obtain ⟨hl, hls⟩ := List.forall_mem_cons.1 hls
    have hfirst : ((l :: ls).map (· ++ "\n")).flatMap String.toList ++ rest.toList =
        l.toList ++ '\n' :: ((ls.map (· ++ "\n")).flatMap String.toList ++ rest.toList) := by
      simp
    rw [hfirst, splitLines_append_feed hl.1 hl.2, List.map_cons, ih hls, String.ofList_toList,
      List.cons_append]

theorem splitLines_word (hne : word ≠ []) (hword : '\n' ∉ word)
    (hlast : ∀ c ∈ word.getLast?, c ≠ '\r') (rest : List Char) :
    ∃ more others, splitLines (word ++ rest) = (word ++ more) :: others := by
  induction word with
  | nil => exact absurd rfl hne
  | cons c word ih =>
    obtain ⟨hc, hword⟩ := List.ne_and_not_mem_of_not_mem_cons hword
    cases word with
    | nil =>
      have hreturn : c = '\r' → rest.head? ≠ some '\n' := fun h => absurd h (hlast c rfl)
      rw [List.singleton_append, splitLines_cons (Ne.symm hc) hreturn]
      cases splitLines rest with
      | nil => exact ⟨[], [], rfl⟩
      | cons line lines => exact ⟨line, lines, rfl⟩
    | cons d word =>
      obtain ⟨more, others, hsplit⟩ := ih (by simp) hword (by simpa using hlast)
      refine ⟨more, others, ?_⟩
      rw [List.cons_append, splitLines_cons (Ne.symm hc), hsplit]
      · rfl
      · exact fun _ h => hword (Option.some.inj h ▸ List.mem_cons_self)

theorem not_mem_of_mem_splitLines (h : line ∈ splitLines cs) : '\n' ∉ line := by
  fun_induction splitLines cs generalizing line with
  | case1 => simp at h
  | case2 cs ih =>
    rcases List.mem_cons.1 h with rfl | h
    · simp
    · exact ih h
  | case3 cs ih =>
    rcases List.mem_cons.1 h with rfl | h
    · simp
    · exact ih h
  | case4 c cs hc hreturn hnil ih =>
    rw [List.mem_singleton.1 h]
    simpa using Ne.symm hc
  | case5 c cs hc hreturn first others hsplit ih =>
    rw [hsplit] at ih
    rcases List.mem_cons.1 h with rfl | h
    · intro h
      rcases List.mem_cons.1 h with h | h
      · exact hc h.symm
      · exact ih List.mem_cons_self h
    · exact ih (List.mem_cons_of_mem _ h)

/-- The position of a place is the number of lines before it, and the bytes after the last of them. -/
theorem position_unlines (hdone : ∀ line ∈ done, '\n' ∉ line) (htail : '\n' ∉ tail)
    (rest : List Char) :
    (LineIndex.ofChars (unlines done ++ tail ++ rest)).position (byteLength (unlines done ++ tail)) =
      ⟨done.length, byteLength tail⟩ := by
  obtain ⟨hlength, hlast, hle⟩ := lineStarts_unlines 0 hdone
  have hall : (lineStarts 0 (unlines done)).takeWhile
      (fun s => decide (s ≤ byteLength (unlines done ++ tail))) = lineStarts 0 (unlines done) := by
    rw [← List.append_nil (lineStarts 0 (unlines done)), List.takeWhile_append_of_pos]
    · rfl
    · intro s hs
      have := hle s hs
      simp only [decide_eq_true_eq, byteLength_append]
      omega
  rw [LineIndex.position_append (Nat.le_refl _)]
  simp only [LineIndex.position, LineIndex.ofChars]
  rw [lineStarts_append, lineStarts_of_not_mem _ htail, List.append_nil, hall, hlength, hlast]
  simp

/-- A word without line ends stands in the line of its position, behind what precedes it in the text
since the line began. -/
theorem exists_line_of_position {text : String} {before after : List Char}
    (htext : text.toList = before ++ word ++ after) (hne : word ≠ [])
    (hword : ∀ c ∈ word, c ≠ '\n' ∧ c ≠ '\r') :
    let p := (LineIndex.ofText text).position (byteLength before)
    ∃ left right : List Char,
      (lines text)[p.line]? = some (String.ofList left ++ String.ofList word ++ String.ofList right) ∧
        left <:+ before ∧ byteLength left = p.column := by
  -- The whole lines before the word count as lines in both ways, and what is left of the text before
  -- it is the column.
  obtain ⟨done, tail, rfl, hdone, htail⟩ := exists_lines before
  intro p
  have hp : p = ⟨done.length, byteLength tail⟩ := by
    rw [List.append_assoc] at htext
    rw [← position_unlines hdone htail (word ++ after), ← htext]
    rfl
  obtain ⟨first, hlength, hfirst⟩ := splitLines_lines hdone (tail ++ word ++ after)
  have hfeed : '\n' ∉ tail ++ word := fun h =>
    (List.mem_append.1 h).elim htail fun h => (hword _ h).1 rfl
  have hlast : ∀ c ∈ (tail ++ word).getLast?, c ≠ '\r' := by
    intro c hc
    rw [List.getLast?_append, List.getLast?_eq_some_getLast hne] at hc
    obtain rfl : word.getLast hne = c := Option.some.inj hc
    exact (hword _ (List.getLast_mem hne)).2
  obtain ⟨more, others, hline⟩ := splitLines_word (by simp [hne]) hfeed hlast after
  refine ⟨tail, more, ?_, List.suffix_append _ _, by rw [hp]⟩
  rw [hp, lines, htext]
  simp only [List.append_assoc] at hfirst hline ⊢
  rw [hfirst, hline, List.getElem?_map, ← hlength]
  simp [String.append_assoc]

/-- A word without line ends stands in the line of its position, at the column. -/
theorem line_of_position {text : String} {before after : List Char}
    (htext : text.toList = before ++ word ++ after) (hne : word ≠ [])
    (hword : ∀ c ∈ word, c ≠ '\n' ∧ c ≠ '\r') :
    let p := (LineIndex.ofText text).position (byteLength before)
    ∃ left right : String, (lines text)[p.line]? = some (left ++ String.ofList word ++ right) ∧
      left.utf8ByteSize = p.column := by
  obtain ⟨left, right, hline, _, hcolumn⟩ := exists_line_of_position htext hne hword
  exact ⟨_, _, hline, by rw [utf8ByteSize_ofList, hcolumn]⟩

end Text

end Reckoner
