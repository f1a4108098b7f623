import Reckoner.Proofs.Expr.Outline
import Reckoner.Proofs.Text.Escape
import Reckoner.Text.Markup

/-! The XML text of an expression as an XML reader sees it. -/

namespace Reckoner

/-- The expression that an element stands for, whose operands are known: a literal, or an operation
that is labelled with its sign. -/
def Labelled.ofElement? (name label : String) : List (Labelled String) → Option (Labelled String)
  | [] => if name = "literal" then some (.literal label) else none
  | [l, r] =>
    match name, label with
    | "add", "+" => some (.binary .add l r)
    | "sub", "-" => some (.binary .sub l r)
    | "mul", "*" => some (.binary .mul l r)
    | "div", "/" => some (.binary .div l r)
    | _, _ => none
  | _ => none

namespace Content

/-- The characters before the first element. -/
def leading : Content → List Char
  | empty => []
  | char c more => c :: more.leading
  | element .. => []

/-- The text before the first element, as it is read. -/
def label (c : Content) : String := Text.unescapeXml (String.ofList c.leading)

mutual

/-- The expressions that the elements stand for, in their order. The label of an element is that of
what is inside, and its operands are in an element `children`. Characters between elements stand for
nothing. -/
def expressions? : Content → Option (List (Labelled String))
  | empty => some []
  | char _ more => more.expressions?
  | element name inside more =>
    match inside.operands? with
    | none => none
    | some operands =>
      match Labelled.ofElement? name inside.label operands, more.expressions? with
      | some e, some es => some (e :: es)
      | _, _ => none

/-- The expressions in the element `children`, which stands at the end if there is one. -/
def operands? : Content → Option (List (Labelled String))
  | empty => some []
  | char _ more => more.operands?
  | element name inside more => if name = "children" ∧ more = empty then inside.expressions? else none

end

variable {cs : List Char} {name : String} {inside more : Content} {operands : List (Labelled String)}
  {e : Labelled String}

@[simp] theorem leading_chars : (chars cs more).leading = cs ++ more.leading := by
  induction cs with
  | nil => rfl
  | cons c cs ih => rw [chars_cons, leading, ih, List.cons_append]

@[simp] theorem expressions?_chars : (chars cs more).expressions? = more.expressions? := by
  induction cs with
  | nil => rfl
  | cons c cs ih => rw [chars_cons, expressions?, ih]

@[simp] theorem operands?_chars : (chars cs more).operands? = more.operands? := by
  induction cs with
  | nil => rfl
  | cons c cs ih => rw [chars_cons, operands?, ih]

theorem label_chars (hmore : more.leading = []) (text : String) :
    (chars (Text.escapeXml text).toList more).label = text := by
  rw [label, leading_chars, hmore, List.append_nil, String.ofList_toList, Text.unescapeXml_escapeXml]

theorem expressions?_element (hoperands : inside.operands? = some operands)
    (he : Labelled.ofElement? name inside.label operands = some e) :
    (element name inside more).expressions? = more.expressions?.map (e :: ·) := by
  simp only [expressions?, hoperands, he]
  cases more.expressions? <;> rfl

theorem operands?_children : (element "children" inside empty).operands? = inside.expressions? := by
  rw [operands?, if_pos ⟨rfl, rfl⟩]

end Content

/-- The expression in an element `expression`. -/
def Labelled.ofTagText? (text : String) : Option (Labelled String) :=
  match Content.ofText? text with
  | some (.element name inside .empty) =>
    match inside.expressions? with
    | some [e] => if name = "expression" then some e else none
    | _ => none
  | _ => none

namespace Expr

open Text

/-- The lines of a node, with more behind them, as tags and characters. -/
def content (indent : Nat) : Expr → Content → Content
  | literal x, more =>
    .chars (blanks (2 * indent)).toList
      (.element "literal" (.chars (escapeXml (literal x).label).toList .empty) (.char '\n' more))
  | binary op l r, more =>
    .chars (blanks (2 * indent)).toList
      (.element op.name
        (.chars (escapeXml op.symbol.toString).toList
          (.element "children"
            (.char '\n' (l.content (indent + 1) (r.content (indent + 1)
              (.chars (blanks (2 * indent)).toList .empty)))) .empty))
        (.char '\n' more))

variable {indent : Nat} {more : Content} {e : Expr}

theorem text_content (e : Expr) (indent : Nat) (more : Content) :
    (e.content indent more).text = (e.tagLines indent).toList ++ more.text := by
  induction e generalizing indent more with
  | literal x => simp [content, tagLines, Content.text]
  | binary op l r ihl ihr => simp [content, tagLines, Content.text, ihl, ihr]

theorem not_mem_blanks {c : Char} (h : c ≠ ' ') (n : Nat) : c ∉ (blanks n).toList := by
  simp [blanks, h]

theorem ofElement?_binary (op : BinaryOp) (l r : Labelled String) :
    Labelled.ofElement? op.name op.symbol.toString [l, r] = some (.binary op l r) := by
  cases op <;> rfl

theorem writable_content (h : more.Writable) (e : Expr) (indent : Nat) :
    (e.content indent more).Writable := by
  have hblanks : ∀ n, '<' ∉ (blanks n).toList := not_mem_blanks (by decide)
  have hescape : ∀ text, '<' ∉ (escapeXml text).toList := fun _ =>
    not_mem_escapeXml (by decide) fun _ => by decide
  have hname : ∀ op : BinaryOp, '>' ∉ op.name.toList ∧ op.name.toList.head? ≠ some '/' := by
    intro op
    cases op <;> decide
  induction e generalizing indent more with
  | literal x =>
    simp only [content, Content.writable_chars, Content.Writable]
    exact ⟨hblanks _, by decide, ⟨hescape _, trivial⟩, by decide, h⟩
  | binary op l r ihl ihr =>
    have hend : (Content.chars (blanks (2 * indent)).toList .empty).Writable :=
      Content.writable_chars.2 ⟨hblanks _, trivial⟩
    have hoperands := ihl (ihr hend (indent + 1)) (indent + 1)
    simp only [content, Content.writable_chars, Content.Writable]
    exact ⟨hblanks _, hname op, ⟨hescape _, by decide, ⟨by decide, hoperands⟩, trivial⟩, by decide,
      h⟩

theorem expressions?_content (e : Expr) (indent : Nat) (more : Content) :
    (e.content indent more).expressions? =
      more.expressions?.map (e.labelled Decimal.plain.text :: ·) := by
  induction e generalizing indent more with
  | literal x =>
    have hread : Labelled.ofElement? "literal"
        (Content.chars (escapeXml (literal x).label).toList .empty).label [] =
          some (.literal (Decimal.plain.text x)) := by
      rw [Content.label_chars (by simp [Content.leading])]
      simp [Labelled.ofElement?, label]
    rw [content, Content.expressions?_chars, Content.expressions?_element _ hread]
    · rw [Content.expressions?, labelled]
    · rw [Content.operands?_chars, Content.operands?]
  | binary op l r ihl ihr =>
    rw [content, Content.expressions?_chars, Content.expressions?_element]
    · rw [Content.expressions?]
    · rw [Content.operands?_chars, Content.operands?_children, Content.expressions?, ihl, ihr,
        Content.expressions?_chars, Content.expressions?]
      rfl
    · rw [Content.label_chars (by simp [Content.leading]), ofElement?_binary, labelled]

/-- The line that a node begins with, without the blanks in front of it. -/
def firstRow : Expr → String
  | literal x => "<literal>" ++ escapeXml (literal x).label ++ "</literal>"
  | binary op _ _ => "<" ++ op.name ++ ">" ++ escapeXml op.symbol.toString ++ "<children>"

/-- The line that an operation ends with, without the blanks in front of it. -/
def lastRow (op : BinaryOp) : String := "</children></" ++ op.name ++ ">"

/-- The lines of a node itself. Those of an operation stand around the lines of its operands. -/
def ownRows : Expr → List String
  | literal x => [(literal x).firstRow]
  | binary op l r => [(binary op l r).firstRow, lastRow op]

/-- The lines of an expression without the blanks in front of them, each with the way to its node. -/
def tagRows : Expr → List (List Side × String)
  | literal x => [([], (literal x).firstRow)]
  | binary op l r =>
    ([], (binary op l r).firstRow) ::
      (under .left l.tagRows ++ under .right r.tagRows ++ [([], lastRow op)])

theorem tagLines_eq (e : Expr) (indent : Nat) :
    e.tagLines indent = String.join (e.tagRows.map fun row =>
      blanks (2 * (indent + row.1.length)) ++ row.2 ++ "\n") := by
  induction e generalizing indent with
  | literal x => simp [tagLines, tagRows, firstRow, String.append_assoc]
  | binary op l r ihl ihr =>
    simp [tagLines, tagRows, firstRow, lastRow, ihl, ihr, map_under, String.append_assoc,
      Nat.add_assoc, Nat.add_comm 1]

theorem mem_tagRows {way : List Side} {row : String} :
    (way, row) ∈ e.tagRows ↔ ∃ node, e.at? way = some node ∧ row ∈ node.ownRows := by
  induction e generalizing way with
  | literal x => cases way <;> simp [tagRows, ownRows, at?]
  | binary op l r ihl ihr =>
    simp only [tagRows, List.mem_cons, List.mem_append, List.not_mem_nil, or_false, mem_under, ihl,
      ihr]
    cases way with
    | nil => simp [at?, ownRows]
    | cons side way => cases side <;> simp [at?]

theorem isLine_escapeXml {s : String} (h : IsLine s) : IsLine (escapeXml s) :=
  ⟨not_mem_escapeXml (by decide) fun hmem => absurd hmem h.1,
    not_mem_escapeXml (by decide) fun hmem => absurd hmem h.2⟩

theorem isLine_blanks (n : Nat) : IsLine (blanks n) :=
  ⟨not_mem_blanks (by decide) n, not_mem_blanks (by decide) n⟩

theorem head?_of_mem_ownRows {row : String} (h : row ∈ e.ownRows) : row.toList.head? = some '<' := by
  cases e with
  | literal x =>
    obtain rfl := List.mem_singleton.1 h
    simp [firstRow]
  | binary op l r =>
    obtain rfl | rfl : row = (binary op l r).firstRow ∨ row = lastRow op := by
      simpa [ownRows] using h
    · simp [firstRow]
    · simp [lastRow]

theorem isLine_of_mem_ownRows {row : String} (h : row ∈ e.ownRows) : IsLine row := by
  have hlabel : IsLine (escapeXml e.label) := isLine_escapeXml (isLine_label e)
  have htype : IsLine e.nodeType := isLine_nodeType e
  cases e with
  | literal x =>
    obtain rfl := List.mem_singleton.1 h
    simp only [firstRow, isLine_append]
    exact ⟨⟨by decide, hlabel⟩, by decide⟩
  | binary op l r =>
    obtain rfl | rfl : row = (binary op l r).firstRow ∨ row = lastRow op := by
      simpa [ownRows] using h
    · simp only [firstRow, isLine_append]
      exact ⟨⟨⟨⟨by decide, htype⟩, by decide⟩, hlabel⟩, by decide⟩
    · simp only [lastRow, isLine_append]
      exact ⟨⟨by decide, htype⟩, by decide⟩

theorem lines_tagText (e : Expr) :
    lines e.tagText = "<expression>" ::
      (e.tagRows.map fun row => blanks (2 * (1 + row.1.length)) ++ row.2) ++ ["</expression>"] := by
  have hlines : ∀ l ∈ "<expression>" ::
      e.tagRows.map (fun row => blanks (2 * (1 + row.1.length)) ++ row.2), IsLine l := by
    refine List.forall_mem_cons.2 ⟨by decide, ?_⟩
    rintro _ h
    obtain ⟨row, hrow, rfl⟩ := List.mem_map.1 h
    obtain ⟨node, -, hown⟩ := mem_tagRows.1 hrow
    exact isLine_append.2 ⟨isLine_blanks _, isLine_of_mem_ownRows hown⟩
  have htext : e.tagText = String.join (("<expression>" ::
      e.tagRows.map (fun row => blanks (2 * (1 + row.1.length)) ++ row.2)).map (· ++ "\n")) ++
        "</expression>" := by
    have hfirst : "<expression>" ++ "\n" = "<expression>\n" := by decide
    simp only [tagText, tagLines_eq, List.map_cons, String.join_cons, List.map_map, hfirst,
      Function.comp_def]
  have hlast : lines "</expression>" = ["</expression>"] := by decide
  rw [htext, lines_join hlines, hlast]

/-- The text of an expression as tags and characters. -/
def tagContent (e : Expr) : Content := .element "expression" (.char '\n' (e.content 1 .empty)) .empty

theorem text_tagContent (e : Expr) : e.tagContent.text = e.tagText.toList := by
  simp [tagContent, Content.text, text_content, tagText]

theorem writable_tagContent (e : Expr) : e.tagContent.Writable := by
  have hempty : Content.empty.Writable := trivial
  exact ⟨by decide, ⟨by decide, writable_content hempty e 1⟩, trivial⟩

theorem markup_ofText?_tagText (e : Expr) : Markup.ofText? e.tagText = some e.tagContent.markup := by
  have hscan := Content.scan_text e.writable_tagContent []
  rw [List.append_nil, text_tagContent] at hscan
  rw [Markup.ofText?, hscan]
  simp [Markup.scan]

theorem ofTagText?_tagText (e : Expr) :
    Labelled.ofTagText? e.tagText = some (e.labelled Decimal.plain.text) := by
  have hread : Content.ofText? e.tagText = some e.tagContent := by
    have hmarkup := Content.read_markup [] .empty e.tagContent []
    rw [List.append_nil] at hmarkup
    rw [Content.ofText?, markup_ofText?_tagText]
    exact hmarkup
  rw [Labelled.ofTagText?, hread]
  simp [tagContent, Content.expressions?, expressions?_content]

/-- In the XML text of an expression every closing tag belongs to the tag that was opened last, and
`expression` is open from the first tag up to the last. The other lines are those of the nodes, and a
line begins with a tag behind two blanks and two more for every step of the way to its node. The
elements are read as the expression with the texts of its numbers. -/
theorem tagText_reads_back (e : Expr) :
    (∃ ms, Markup.ofText? e.tagText = some (.opening "expression" :: ms ++ [.closing "expression"]) ∧
      (∀ n, ∃ names, Markup.openAfter [] (.opening "expression" :: ms.take n) =
        some (names ++ ["expression"])) ∧
      Markup.openAfter [] (.opening "expression" :: ms ++ [.closing "expression"]) = some []) ∧
    (Text.lines e.tagText = "<expression>" ::
        (e.tagRows.map fun row =>
          String.ofList (List.replicate (2 * (row.1.length + 1)) ' ') ++ row.2) ++
          ["</expression>"] ∧
      (∀ way row, (way, row) ∈ e.tagRows ↔ ∃ node, e.at? way = some node ∧ row ∈ node.ownRows) ∧
      ∀ row ∈ e.tagRows, row.2.toList.head? = some '<') ∧
    Labelled.ofTagText? e.tagText = some (e.labelled Decimal.plain.text) := by
  have hnested := Content.nested_markup (.char '\n' (e.content 1 .empty))
  refine ⟨⟨(Content.char '\n' (e.content 1 .empty)).markup, ?_, fun n => ?_, ?_⟩,
    ⟨?_, fun way row => mem_tagRows, ?_⟩, ofTagText?_tagText e⟩
  · exact markup_ofText?_tagText e
  · exact hnested.inside ["expression"] _ _ (List.take_append_drop n _).symm
  · exact (hnested.element "expression").closed []
  · simp only [lines_tagText, Text.blanks, Nat.add_comm]
  · rintro ⟨way, row⟩ h
    obtain ⟨node, -, hown⟩ := mem_tagRows.1 h
    exact head?_of_mem_ownRows hown

theorem tagText_reads_back_of_difference :
    let e := binary .sub (literal 1.5) (literal 2)
    e.tagText = "<expression>\n  <sub>-<children>\n    <literal>1.5</literal>\n" ++
      "    <literal>2</literal>\n  </children></sub>\n</expression>" ∧
    ([.right], "<literal>2</literal>") ∈ e.tagRows ∧ "<literal>2</literal>".toList.head? = some '<' ∧
    Labelled.ofTagText? e.tagText = some (.binary .sub (.literal "1.5") (.literal "2")) := by
  intro e
  obtain ⟨-, ⟨-, hrows, hhead⟩, hread⟩ := tagText_reads_back e
  have hrow : ([.right], "<literal>2</literal>") ∈ e.tagRows :=
    (hrows _ _).2 ⟨literal 2, rfl, by decide +kernel⟩
  have hlabelled : e.labelled Decimal.plain.text = .binary .sub (.literal "1.5") (.literal "2") := by
    decide +kernel
  exact ⟨by decide +kernel, hrow, hhead _ hrow, hlabelled ▸ hread⟩

end Expr

end Reckoner
