import Reckoner.Token

/-! The lexemes of arithmetic, without automata. The first character of a lexeme tells its kind. Only
numbers and blanks may go on after a lexeme, with digits and with blanks. -/

namespace Reckoner

/-- Digits, a point, and at least one digit. -/
def IsNumber (word : List Char) : Prop :=
  ∃ whole fraction, word = whole ++ '.' :: fraction ∧ (∀ c ∈ whole, c.isDigit) ∧ fraction ≠ [] ∧
    ∀ c ∈ fraction, c.isDigit

def IsBlank (c : Char) : Prop := c ∈ [' ', '\n', '\r', '\t']

instance : DecidablePred IsBlank := fun c =>
  inferInstanceAs (Decidable (c ∈ [' ', '\n', '\r', '\t']))

namespace TokenKind

/-- The lexemes of a kind. -/
def Spells : TokenKind → List Char → Prop
  | num, word => IsNumber word
  | plus, word => word = ['+']
  | minus, word => word = ['-']
  | times, word => word = ['*']
  | div, word => word = ['/']
  | lparen, word => word = ['(']
  | rparen, word => word = [')']
  | whitespace, word => word ≠ [] ∧ ∀ c ∈ word, IsBlank c

/-- The kind of the lexemes that begin with the character. -/
def ofFirst? (c : Char) : Option TokenKind :=
  if c.isDigit || c = '.' then some num
  else if IsBlank c then some whitespace
  else match c with
    | '+' => some plus
    | '-' => some minus
    | '*' => some times
    | '/' => some div
    | '(' => some lparen
    | ')' => some rparen
    | _ => none

/-- The character may follow a lexeme of the kind in a longer one. -/
def Extends : TokenKind → Char → Prop
  | num, c => c.isDigit
  | whitespace, c => IsBlank c
  | _, _ => False

end TokenKind

/-- A run of characters that pass a test ends before one that does not. -/
theorem takeWhile_append_of_stop {p : Char → Bool} {word rest : List Char}
    (hword : ∀ c ∈ word, p c = true) (hstop : ∀ c ∈ rest.head?, p c = false) :
    (word ++ rest).takeWhile p = word := by
  rw [List.takeWhile_append_of_pos hword]
  cases rest with
  | nil => simp
  | cons c rest => simp [hstop c rfl]

theorem dropWhile_append_of_stop {p : Char → Bool} {word rest : List Char}
    (hword : ∀ c ∈ word, p c = true) (hstop : ∀ c ∈ rest.head?, p c = false) :
    (word ++ rest).dropWhile p = rest := by
  rw [List.dropWhile_append_of_pos hword]
  cases rest with
  | nil => rfl
  | cons c rest => simp [hstop c rfl]

/-- A run is all that stands before the first character that does not pass the test. -/
theorem append_inj_of_stop {p : Char → Bool} {word word' rest rest' : List Char}
    (hword : ∀ c ∈ word, p c = true) (hword' : ∀ c ∈ word', p c = true)
    (hstop : ∀ c ∈ rest.head?, p c = false) (hstop' : ∀ c ∈ rest'.head?, p c = false) :
    word ++ rest = word' ++ rest' ↔ word = word' ∧ rest = rest' := by
  constructor
  · intro h
    have hrun := congrArg (List.takeWhile p) h
    have hrest := congrArg (List.dropWhile p) h
    rw [takeWhile_append_of_stop hword hstop, takeWhile_append_of_stop hword' hstop'] at hrun
    rw [dropWhile_append_of_stop hword hstop, dropWhile_append_of_stop hword' hstop'] at hrest
    exact ⟨hrun, hrest⟩
  · rintro ⟨rfl, rfl⟩
    rfl

/-- A word is all that stands before the first of a character that it does not have. -/
theorem append_cons_inj_of_not_mem {c : Char} {word word' rest rest' : List Char} (h : c ∉ word)
    (h' : c ∉ word') : word ++ c :: rest = word' ++ c :: rest' ↔ word = word' ∧ rest = rest' := by
  have hrun : ∀ {word : List Char}, c ∉ word → ∀ d ∈ word, (d != c) = true := by
    intro word h d hd
    exact bne_iff_ne.2 fun heq => h (heq ▸ hd)
  rw [append_inj_of_stop (hrun h) (hrun h') (by simp) (by simp), List.cons.injEq, eq_self, true_and]

theorem digits_stop_at_point (rest : List Char) :
    ∀ c ∈ ('.' :: rest).head?, c.isDigit = false := by
  intro c hc
  obtain rfl := Option.some.inj hc
  decide

theorem isNumber_cons {c : Char} {word : List Char} :
    IsNumber (c :: word) ↔ c.isDigit ∧ IsNumber word ∨
      c = '.' ∧ word ≠ [] ∧ ∀ d ∈ word, d.isDigit := by
  constructor
  · rintro ⟨whole, fraction, hword, hwhole, hne, hfraction⟩
    cases whole with
    | nil =>
      obtain ⟨rfl, rfl⟩ := List.cons.inj hword
      exact .inr ⟨rfl, hne, hfraction⟩
    | cons d whole =>
      obtain ⟨rfl, rfl⟩ := List.cons.inj hword
      obtain ⟨hc, hwhole⟩ := List.forall_mem_cons.1 hwhole
      exact .inl ⟨hc, whole, fraction, rfl, hwhole, hne, hfraction⟩
  · rintro (⟨hc, whole, fraction, rfl, hwhole, hne, hfraction⟩ | ⟨rfl, hne, hdigits⟩)
    · exact ⟨c :: whole, fraction, rfl, List.forall_mem_cons.2 ⟨hc, hwhole⟩, hne, hfraction⟩
    · exact ⟨[], word, rfl, by simp, hne, hdigits⟩

theorem isBlank_iff_eq {c : Char} : IsBlank c ↔ c = ' ' ∨ c = '\n' ∨ c = '\r' ∨ c = '\t' := by
  simp [IsBlank]

theorem IsNumber.ne_nil {word : List Char} (h : IsNumber word) : word ≠ [] := by
  obtain ⟨whole, fraction, rfl, _⟩ := h
  simp

theorem IsNumber.mem {word : List Char} {c : Char} (h : IsNumber word) (hc : c ∈ word) :
    c.isDigit ∨ c = '.' := by
  obtain ⟨whole, fraction, rfl, hwhole, _, hfraction⟩ := h
  rcases List.mem_append.1 hc with hc | hc
  · exact .inl (hwhole c hc)
  · exact (List.mem_cons.1 hc).symm.imp_left (hfraction c)

/-- A number goes on with digits only. -/
theorem IsNumber.append_iff {word : List Char} (h : IsNumber word) (more : List Char) :
    IsNumber (word ++ more) ↔ ∀ c ∈ more, c.isDigit := by
  induction word with
  | nil => exact absurd rfl h.ne_nil
  | cons c word ih =>
    rw [List.cons_append, isNumber_cons]
    rcases isNumber_cons.1 h with ⟨hc, hword⟩ | ⟨rfl, hne, hdigits⟩
    · have hpoint : c ≠ '.' := by rintro rfl; exact absurd hc (by decide)
      simp [hc, hpoint, ih hword]
    · constructor
      · rintro (⟨hdigit, _⟩ | ⟨_, _, hall⟩)
        · exact absurd hdigit (by decide)
        · exact fun d hd => hall d (List.mem_append_right word hd)
      · intro hmore
        refine .inr ⟨rfl, List.append_ne_nil_of_left_ne_nil hne more, fun d hd => ?_⟩
        exact (List.mem_append.1 hd).elim (hdigits d) (hmore d)

namespace TokenKind

variable {k l : TokenKind} {c : Char} {word more : List Char}

theorem Spells.ne_nil (h : k.Spells word) : word ≠ [] := by
  cases k with
  | num => exact IsNumber.ne_nil h
  | whitespace => exact h.1
  | _ => exact h ▸ List.cons_ne_nil _ _

theorem ofFirst?_of_blank (h : IsBlank c) : ofFirst? c = some whitespace := by
  rcases isBlank_iff_eq.1 h with rfl | rfl | rfl | rfl <;> rfl

theorem Spells.no_blank (h : k.Spells word) (hk : k ≠ .whitespace) :
    ∀ c ∈ word, ¬ IsBlank c := by
  have hdigit : ∀ c : Char, c.isDigit → ¬ IsBlank c := by
    intro c hc hblank
    rcases isBlank_iff_eq.1 hblank with rfl | rfl | rfl | rfl <;> exact absurd hc (by decide)
  intro c hc
  cases k with
  | num =>
    obtain ⟨whole, fraction, rfl, hwhole, _, hfraction⟩ := h
    rcases List.mem_append.1 hc with hc | hc
    · exact hdigit c (hwhole c hc)
    rcases List.mem_cons.1 hc with rfl | hc
    · decide
    · exact hdigit c (hfraction c hc)
  | whitespace => exact absurd rfl hk
  | _ =>
    cases h
    rw [List.mem_singleton.1 hc]
    decide

theorem Spells.first (h : k.Spells (c :: word)) : ofFirst? c = some k := by
  cases k with
  | num =>
    have hc : c.isDigit ∨ c = '.' := (isNumber_cons.1 h).imp And.left And.left
    simp [ofFirst?, hc]
  | whitespace => exact ofFirst?_of_blank (h.2 c List.mem_cons_self)
  | _ => obtain ⟨rfl, _⟩ := List.cons.inj h; decide

/-- A character that can follow a lexeme in a longer one begins lexemes of the same kind. -/
theorem Extends.first (h : k.Extends c) : ofFirst? c = some k := by
  cases k with
  | num => simp [ofFirst?, show c.isDigit = true from h]
  | whitespace => exact ofFirst?_of_blank h
  | _ => exact h.elim

theorem not_extends_point : ¬ k.Extends '.' := by
  intro h
  cases k with
  | num => exact absurd h (show ¬ '.'.isDigit = true by decide)
  | whitespace => exact absurd h (show ¬ IsBlank '.' by decide)
  | _ => exact h

theorem Spells.kind_eq (h : k.Spells word) (h' : l.Spells (word ++ more)) : k = l := by
  cases word with
  | nil => exact absurd rfl h.ne_nil
  | cons c word => exact Option.some.inj (h.first.symm.trans h'.first)

theorem Spells.unique (h : k.Spells word) (h' : l.Spells word) : k = l :=
  h.kind_eq ((List.append_nil word).symm ▸ h')

/-- A lexeme goes on exactly with the characters that extend its kind. -/
theorem Spells.append_iff (h : k.Spells word) : k.Spells (word ++ more) ↔ ∀ c ∈ more, k.Extends c := by
  have hsymbol : ∀ d, word = [d] → (word ++ more = [d] ↔ ∀ c ∈ more, False) := by
    rintro d rfl
    simp [List.eq_nil_iff_forall_not_mem]
  cases k with
  | num => exact IsNumber.append_iff h more
  | whitespace =>
    obtain ⟨hne, hblank⟩ := h
    refine ⟨fun ⟨_, hall⟩ c hc => hall c (List.mem_append_right _ hc), fun hmore => ?_⟩
    exact ⟨List.append_ne_nil_of_left_ne_nil hne _,
      fun c hc => (List.mem_append.1 hc).elim (hblank c) (hmore c)⟩
  | _ => exact hsymbol _ h

end TokenKind

end Reckoner
