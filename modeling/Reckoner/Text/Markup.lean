/-! Text with tags. A scan cuts it into tags and characters. Where every closing tag belongs to the tag
that was opened last, the tags enclose elements, which stand among characters and inside one another. -/

namespace Reckoner

/-- A tag, or a character that stands in no tag. -/
inductive Markup where
  | opening (name : String)
  | closing (name : String)
  | char (c : Char)
  deriving DecidableEq

/-- Characters and elements, in their order. -/
inductive Content where
  | empty
  | char (c : Char) (more : Content)
  | element (name : String) (inside more : Content)
  deriving DecidableEq

namespace Markup

/-- The tag with these characters between its angle brackets. -/
def ofTag : List Char → Markup
  | '/' :: name => closing (String.ofList name)
  | name => opening (String.ofList name)

/-- Cuts characters into tags and characters. In a tag, `begun` holds what was read of it; a tag that does
not end is an error. -/
def scan : Option (List Char) → List Char → Option (List Markup)
  | none, [] => some []
  | some _, [] => none
  | none, c :: cs => if c = '<' then scan (some []) cs else (scan none cs).map (char c :: ·)
  | some begun, c :: cs =>
    if c = '>' then (scan none cs).map (ofTag begun :: ·) else scan (some (begun ++ [c])) cs

def ofText? (text : String) : Option (List Markup) := scan none text.toList

/-- The names of the elements that are open after tags, the last one first, where those of the list are
open before. A closing tag has to have the name of the last. -/
def openAfter : List String → List Markup → Option (List String)
  | names, [] => some names
  | names, opening name :: ms => openAfter (name :: names) ms
  | names, char _ :: ms => openAfter names ms
  | [], closing _ :: _ => none
  | last :: names, closing name :: ms => if name = last then openAfter names ms else none

/-- The tags close what they open, in the reverse order, and nothing else. -/
structure Nested (ms : List Markup) : Prop where
  closed : ∀ names, openAfter names ms = some names
  inside : ∀ names first rest, ms = first ++ rest →
    ∃ inner, openAfter names first = some (inner ++ names)

variable {name : String} {ms ns : List Markup} {tag begun : List Char}

theorem openAfter_append (names : List String) (ms ns : List Markup) :
    openAfter names (ms ++ ns) = (openAfter names ms).bind (openAfter · ns) := by
  induction ms generalizing names with
  | nil => rfl
  | cons m ms ih =>
    cases m with
    | opening name => exact ih _
    | char c => exact ih _
    | closing name =>
      cases names with
      | nil => rfl
      | cons last names =>
        simp only [List.cons_append, openAfter, ih]
        split <;> rfl

theorem nested_nil : Nested [] where
  closed _ := rfl
  inside names first rest h := ⟨[], by rw [(List.append_eq_nil_iff.1 h.symm).1]; rfl⟩

theorem nested_char (c : Char) : Nested [.char c] where
  closed _ := rfl
  inside names first rest h := by
    rcases List.singleton_eq_append_iff.1 h with ⟨rfl, -⟩ | ⟨rfl, -⟩
    · exact ⟨[], rfl⟩
    · exact ⟨[], rfl⟩

theorem Nested.append (hms : Nested ms) (hns : Nested ns) : Nested (ms ++ ns) where
  closed names := by rw [openAfter_append, hms.closed, Option.bind_some, hns.closed]
  inside names first rest h := by
    rcases List.append_eq_append_iff.1 h with ⟨more, rfl, hns'⟩ | ⟨more, hms', -⟩
    · rw [openAfter_append, hms.closed, Option.bind_some]
      exact hns.inside names more rest hns'
    · exact hms.inside names first more hms'

/-- Between the tags of an element it is open, below what else is open. -/
theorem Nested.element (hms : Nested ms) (name : String) :
    Nested (.opening name :: (ms ++ [.closing name])) where
  closed names := by simp [openAfter, openAfter_append, hms.closed]
  inside names first rest h := by
    cases first with
    | nil => exact ⟨[], rfl⟩
    | cons m first =>
      obtain ⟨rfl, htail⟩ := List.cons.inj (h.trans List.cons_append)
      -- What is read ends at the closing tag or before it.
      rcases List.append_eq_append_iff.1 htail with ⟨more, rfl, hclosing⟩ | ⟨more, hms', -⟩
      · rcases List.singleton_eq_append_iff.1 hclosing with ⟨rfl, -⟩ | ⟨rfl, -⟩
        · exact ⟨[name], by simp [openAfter, hms.closed]⟩
        · exact ⟨[], by simp [openAfter, openAfter_append, hms.closed]⟩
      · obtain ⟨inner, hinner⟩ := hms.inside (name :: names) first more hms'
        exact ⟨inner ++ [name], by simp [openAfter, hinner]⟩

theorem ofTag_closing (name : String) : ofTag ('/' :: name.toList) = closing name :=
  congrArg closing (String.ofList_toList ..)

theorem ofTag_opening (h : name.toList.head? ≠ some '/') : ofTag name.toList = opening name := by
  unfold ofTag
  split
  next htag => simp [htag] at h
  next => rw [String.ofList_toList]

theorem scan_tag (htag : '>' ∉ tag) (begun cs : List Char) :
    scan (some begun) (tag ++ '>' :: cs) = (scan none cs).map (ofTag (begun ++ tag) :: ·) := by
  induction tag generalizing begun with
  | nil => simp [scan]
  | cons c tag ih =>
    obtain ⟨hc, htag⟩ := List.ne_and_not_mem_of_not_mem_cons htag
    rw [List.cons_append, scan, if_neg (Ne.symm hc), ih htag]
    simp

end Markup

namespace Content

/-- The content with more at its end. -/
def append : Content → Content → Content
  | empty, last => last
  | char c more, last => char c (more.append last)
  | element name inside more, last => element name inside (more.append last)

/-- Characters with more at their end. -/
def chars (cs : List Char) (more : Content) : Content := cs.foldr char more

/-- Puts elements together. `done` is what was read in the last element that is open, and `outer` has for
each open element its name and what was read around it. -/
def read (outer : List (String × Content)) (done : Content) : List Markup → Option Content
  | [] => if outer.isEmpty then some done else none
  | .char c :: ms => read outer (done.append (char c empty)) ms
  | .opening name :: ms => read ((name, done) :: outer) empty ms
  | .closing name :: ms =>
    match outer with
    | [] => none
    | (last, before) :: outer =>
      if name = last then read outer (before.append (element name done empty)) ms else none

def ofText? (text : String) : Option Content :=
  match Markup.ofText? text with
  | some ms => read [] empty ms
  | none => none

def text : Content → List Char
  | empty => []
  | char c more => c :: more.text
  | element name inside more =>
    '<' :: (name.toList ++ '>' :: (inside.text ++ '<' :: '/' :: (name.toList ++ '>' :: more.text)))

/-- The tags and characters that a content is written as. -/
def markup : Content → List Markup
  | empty => []
  | char c more => .char c :: more.markup
  | element name inside more =>
    .opening name :: (inside.markup ++ .closing name :: more.markup)

/-- The characters are not taken for the beginning of a tag, and the names not for its end, or for
another kind of tag. -/
def Writable : Content → Prop
  | empty => True
  | char c more => c ≠ '<' ∧ more.Writable
  | element name inside more =>
    ('>' ∉ name.toList ∧ name.toList.head? ≠ some '/') ∧ inside.Writable ∧ more.Writable

variable {c : Content} {cs : List Char} {more last : Content}

@[simp] theorem chars_nil (more : Content) : chars [] more = more := rfl

@[simp] theorem chars_cons (c : Char) (cs : List Char) (more : Content) :
    chars (c :: cs) more = char c (chars cs more) := rfl

@[simp] theorem append_empty (c : Content) : c.append empty = c := by
  induction c with
  | empty => rfl
  | char d more ih => rw [append, ih]
  | element name inside more _ ih => rw [append, ih]

theorem append_assoc (c d last : Content) : (c.append d).append last = c.append (d.append last) := by
  induction c with
  | empty => rfl
  | char d' more ih => rw [append, append, append, ih]
  | element name inside more _ ih => rw [append, append, append, ih]

@[simp] theorem text_chars (cs : List Char) (more : Content) :
    (chars cs more).text = cs ++ more.text := by
  induction cs with
  | nil => rfl
  | cons c cs ih => rw [chars_cons, text, ih, List.cons_append]

@[simp] theorem writable_chars : (chars cs more).Writable ↔ '<' ∉ cs ∧ more.Writable := by
  induction cs with
  | nil => simp
  | cons c cs ih => rw [chars_cons, Writable, ih, List.mem_cons, not_or, and_assoc, ne_comm]

theorem nested_markup (c : Content) : Markup.Nested c.markup := by
  induction c with
  | empty => exact Markup.nested_nil
  | char d more ih => exact (Markup.nested_char d).append ih
  | element name inside more ihinside ihmore =>
    have h := (ihinside.element name).append ihmore
    simpa [markup] using h

/-- The scan finds the tags and characters of a content in its text. -/
theorem scan_text (h : c.Writable) (cs : List Char) :
    Markup.scan none (c.text ++ cs) = (Markup.scan none cs).map (c.markup ++ ·) := by
  induction c generalizing cs with
  | empty => simp [text, markup]
  | char d more ih =>
    rw [text, List.cons_append, Markup.scan, if_neg h.1, ih h.2, Option.map_map]
    rfl
  | element name inside more ihinside ihmore =>
    obtain ⟨⟨hend, hslash⟩, hinside, hmore⟩ := h
    have hend' : '>' ∉ '/' :: name.toList := List.not_mem_cons_of_ne_of_not_mem (by decide) hend
    have hopening : ∀ cs, Markup.scan none ('<' :: (name.toList ++ '>' :: cs)) =
        (Markup.scan none cs).map (.opening name :: ·) := by
      intro cs
      rw [Markup.scan, if_pos rfl, Markup.scan_tag hend, List.nil_append, Markup.ofTag_opening hslash]
    have hclosing : ∀ cs, Markup.scan none ('<' :: '/' :: (name.toList ++ '>' :: cs)) =
        (Markup.scan none cs).map (.closing name :: ·) := by
      intro cs
      rw [Markup.scan, if_pos rfl, ← List.cons_append, Markup.scan_tag hend', List.nil_append,
        Markup.ofTag_closing]
    simp only [text, List.cons_append, List.append_assoc, hopening, ihinside hinside, hclosing,
      ihmore hmore, markup, Option.map_map]
    rfl

/-- Elements are put together as they were taken apart. -/
theorem read_markup (outer : List (String × Content)) (done c : Content) (ms : List Markup) :
    read outer done (c.markup ++ ms) = read outer (done.append c) ms := by
  induction c generalizing outer done ms with
  | empty => rw [append_empty]; rfl
  | char d more ih =>
    rw [markup, List.cons_append, read, ih, append_assoc]
    rfl
  | element name inside more ihinside ihmore =>
    simp only [markup, List.cons_append, List.append_assoc, read, ihinside, if_true, ihmore, append_assoc]
    rfl

end Content

end Reckoner
