import Mathlib.Data.List.TakeDrop
import Mathlib.Data.List.TakeWhile
import Reckoner.Decimal.Reader
import Reckoner.Decimal.Style
import Reckoner.Lexer.Lexeme

/-! The plain text of a double is a name, or digits after an optional sign, with a point among them or
without one. Of these texts the ones with a point and no sign are numbers of arithmetic, and each of
those can be read. -/

namespace Reckoner.Decimal

/-- Digits, at least one. -/
def IsInteger (word : List Char) : Prop := word ≠ [] ∧ ∀ c ∈ word, c.isDigit

/-- The texts that a double can have in plain style. -/
inductive PlainForm : List Char → Prop
  | nan : PlainForm "NaN".toList
  | infinite (negative : Bool) : PlainForm (signText negative ++ "inf".toList)
  | integer (negative : Bool) {word : List Char} : IsInteger word → PlainForm (signText negative ++ word)
  | number (negative : Bool) {word : List Char} : IsNumber word → PlainForm (signText negative ++ word)

theorem isInteger_digitsOf (n : Nat) : IsInteger (digitsOf n) :=
  ⟨Nat.toDigits_ne_nil, fun _ hc => Nat.isDigit_of_mem_toDigits (by decide) (by decide) hc⟩

theorem mem_zeros {n : Nat} {c : Char} (h : c ∈ List.replicate n '0') : c.isDigit := by
  rw [List.eq_of_mem_replicate h]
  decide

/-- Digits that all stand before the point are written without it. -/
theorem isInteger_positionalDigits {ds : List Char} (h : IsInteger ds) {k : Int}
    (hk : (ds.length : Int) ≤ k) : IsInteger (positionalDigits plain ds k) := by
  obtain ⟨hne, hdigits⟩ := h
  have hlength : 0 < ds.length := List.length_pos_iff.2 hne
  rw [positionalDigits, if_neg (by omega), if_pos hk]
  refine ⟨by simp [hne], fun c hc => ?_⟩
  simp only [plain, Bool.false_eq_true, if_false, List.append_nil] at hc
  exact (List.mem_append.1 hc).elim (hdigits c) mem_zeros

/-- Where some digits stand after the point, the text is a number of arithmetic. -/
theorem isNumber_positionalDigits {ds : List Char} (h : IsInteger ds) {k : Int}
    (hk : k < ds.length) : IsNumber (positionalDigits plain ds k) := by
  obtain ⟨hne, hdigits⟩ := h
  unfold positionalDigits
  split
  next =>
    refine ⟨['0'], List.replicate (-k).toNat '0' ++ ds, by simp, by simp, by simp [hne], ?_⟩
    exact fun c hc => (List.mem_append.1 hc).elim mem_zeros (hdigits c)
  next =>
    rw [if_neg (by omega)]
    refine ⟨ds.take k.toNat, ds.drop k.toNat, by simp, ?_, ?_, ?_⟩
    · exact fun c hc => hdigits c (List.mem_of_mem_take hc)
    · rw [← List.length_pos_iff, List.length_drop]
      omega
    · exact fun c hc => hdigits c (List.mem_of_mem_drop hc)

theorem plainForm_digits (negative : Bool) {ds : List Char} (h : IsInteger ds) (k : Int) :
    PlainForm (signText negative ++ positionalDigits plain ds k) :=
  (Int.lt_or_le k ds.length).elim (fun hk => .number negative (isNumber_positionalDigits h hk))
    fun hk => .integer negative (isInteger_positionalDigits h hk)

theorem plainForm_text (x : Float) : PlainForm (plain.text x).toList := by
  rw [Style.text, String.toList_ofList]
  cases Binary64.ofFloat x with
  | nan => exact .nan
  | infinite negative =>
    have htext : plain.parts (.infinite negative) = signText negative ++ "inf".toList := by
      cases negative <;> decide
    rw [htext]
    exact .infinite negative
  | zero negative => exact plainForm_digits negative ⟨by simp, by simp⟩ 1
  | finite negative mantissa exponent narrow =>
    exact plainForm_digits negative (isInteger_digitsOf _) _

theorem PlainForm.ne_nil {word : List Char} (h : PlainForm word) : word ≠ [] := by
  cases h with
  | nan => simp
  | infinite negative => simp
  | integer negative hword => simp [hword.1]
  | number negative hword => simp [hword.ne_nil]

theorem mem_signed {negative : Bool} {word : List Char} {c : Char}
    (h : c ∈ signText negative ++ word) : c = '-' ∨ c ∈ word := by
  cases negative with
  | false => exact .inr h
  | true => exact List.mem_cons.1 h

theorem PlainForm.mem {word : List Char} {c : Char} (h : PlainForm word) (hc : c ∈ word) :
    c.isDigit ∨ c ∈ ['-', '.', 'N', 'a', 'i', 'n', 'f'] := by
  have hname : ∀ c ∈ "NaN".toList ++ "inf".toList, c ∈ ['-', '.', 'N', 'a', 'i', 'n', 'f'] := by
    simp
  cases h with
  | nan => exact .inr (hname c (List.mem_append_left _ hc))
  | infinite negative =>
    rcases mem_signed hc with rfl | hc
    · simp
    · exact .inr (hname c (List.mem_append_right _ hc))
  | integer negative hword =>
    rcases mem_signed hc with rfl | hc
    · simp
    · exact .inl (hword.2 c hc)
  | number negative hword =>
    rcases mem_signed hc with rfl | hc
    · simp
    · exact (hword.mem hc).imp_right fun h => by simp [h]

theorem text_ne_nil (x : Float) : (plain.text x).toList ≠ [] := (plainForm_text x).ne_nil

/-- Plain text has digits, a sign, a point and the letters of names, and no other character. -/
theorem not_mem_text {c : Char} (hdigit : c.isDigit = false)
    (hc : c ∉ ['-', '.', 'N', 'a', 'i', 'n', 'f']) (x : Float) : c ∉ (plain.text x).toList := by
  intro hmem
  rcases (plainForm_text x).mem hmem with h | h
  · exact Bool.false_ne_true (hdigit.symm.trans h)
  · exact hc h

theorem IsInteger.not_isNumber {word : List Char} (h : IsInteger word) : ¬ IsNumber word := by
  rintro ⟨whole, fraction, rfl, _⟩
  exact absurd (h.2 '.' (by simp)) (by decide)

theorem not_isNumber_of_first {c : Char} {word : List Char} (hdigit : c.isDigit = false)
    (hpoint : c ≠ '.') : ¬ IsNumber (c :: word) := by
  intro h
  rcases isNumber_cons.1 h with ⟨hc, _⟩ | ⟨hc, _⟩
  · exact absurd hc (by rw [hdigit]; exact Bool.false_ne_true)
  · exact hpoint hc

/-- `mantissa * 2 ^ exponent` is a whole number. -/
def IsWhole (mantissa : Nat) (exponent : Int) : Prop :=
  0 ≤ exponent ∨ Nat.pow 2 (-exponent).toNat ∣ mantissa

/-- A value that is not a number, an infinite one, a negative one, or a whole one. -/
def Binary64.NoNumeral : Binary64 → Prop
  | nan | infinite _ | zero _ => True
  | finite negative mantissa exponent _ =>
    negative = true ∨ IsWhole mantissa exponent

section Whole

variable {mantissa : Nat} {exponent : Int} {narrow : Bool}

theorem mantissa_pos {bits : Nat} {negative : Bool}
    (h : Binary64.ofBits bits = .finite negative mantissa exponent narrow) : 0 < mantissa := by
  unfold Binary64.ofBits at h
  simp only at h
  split at h
  · split at h <;> cases h
  · split at h
    · split at h
      · cases h
      next hfraction =>
        cases h
        omega
    · cases h
      exact Nat.add_pos_left (by decide) _

theorem step_zero (mantissa : Nat) (exponent : Int) (narrow : Bool) :
    (Interval.around mantissa exponent narrow).step 0 = Nat.pow 2 (2 - exponent).toNat := by
  have hneg : -(exponent - 2) = 2 - exponent := by omega
  simp [Interval.step, Interval.around, hneg]

/-- A whole double lies on the grid of the whole numbers. -/
theorem step_zero_dvd (h : IsWhole mantissa exponent) :
    (Interval.around mantissa exponent narrow).step 0 ∣ 4 * mantissa := by
  rw [step_zero]
  by_cases hexponent : 0 ≤ exponent
  · have hle : (2 - exponent).toNat ≤ 2 := by omega
    have hfour : Nat.pow 2 (2 - exponent).toNat ∣ 4 := Nat.pow_dvd_pow 2 hle
    exact Nat.dvd_trans hfour (Nat.dvd_mul_right 4 mantissa)
  · have hdvd : Nat.pow 2 (-exponent).toNat ∣ mantissa := h.resolve_left hexponent
    have hsplit : (2 - exponent).toNat = 2 + (-exponent).toNat := by omega
    have hpow : Nat.pow 2 (2 + (-exponent).toNat) = 4 * Nat.pow 2 (-exponent).toNat :=
      Nat.pow_add 2 2 _
    rw [hsplit, hpow]
    exact Nat.mul_dvd_mul_left 4 hdvd

theorem point?_zero_of_whole (tie : Tie) (hpos : 0 < mantissa) (h : IsWhole mantissa exponent) :
    ((Interval.around mantissa exponent narrow).point? tie 0).isSome := by
  have hdvd : (Interval.around mantissa exponent narrow).step 0 ∣ 4 * mantissa := step_zero_dvd h
  generalize hi : Interval.around mantissa exponent narrow = i at hdvd
  have hvalue : i.value = 4 * mantissa := by rw [← hi]; rfl
  have hlower : i.lower < i.value := by
    rw [← hi]
    simp only [Interval.around]
    split <;> omega
  have hupper : i.value < i.upper := by
    rw [← hi]
    exact Nat.lt_add_of_pos_right (by decide)
  have hscale : 0 < i.scale 0 := Nat.mul_pos (Nat.pow_pos (by decide)) (Nat.pow_pos (by decide))
  have hgrid : i.value * i.scale 0 / i.step 0 * i.step 0 = i.value * i.scale 0 :=
    Nat.div_mul_cancel (Nat.dvd_trans (hvalue ▸ hdvd) (Nat.dvd_mul_right _ _))
  have hbelow := Nat.mul_lt_mul_of_pos_right hlower hscale
  have habove := Nat.mul_lt_mul_of_pos_right hupper hscale
  have hcontains : i.contains 0 (i.value * i.scale 0 / i.step 0) = true := by
    unfold Interval.contains
    rw [hgrid]
    split <;> simp <;> omega
  have hstep : 0 < i.step 0 := Nat.mul_pos (Nat.pow_pos (by decide)) (Nat.pow_pos (by decide))
  unfold Interval.point?
  simp only [hcontains, hgrid, Nat.sub_self, Nat.mul_zero, hstep, if_true]
  cases i.contains 0 (i.value * i.scale 0 / i.step 0 + 1) <;> rfl

theorem coarsest_nonneg_of_whole (hpos : 0 < mantissa) (h : IsWhole mantissa exponent) :
    0 ≤ (Interval.around mantissa exponent narrow).coarsest := by
  -- The grid of the whole numbers divides the value, so its step has no more bits.
  have hle : Nat.pow 2 (2 - exponent).toNat ≤ 4 * mantissa + 2 := by
    have hdvd : (Interval.around mantissa exponent narrow).step 0 ∣ 4 * mantissa := step_zero_dvd h
    rw [step_zero] at hdvd
    exact Nat.le_add_right_of_le (Nat.le_of_dvd (by omega) hdvd)
  have hlog : (2 - exponent).toNat ≤ (4 * mantissa + 2).log2 :=
    (Nat.le_log2 (by omega)).2 hle
  have hbits : 0 ≤ ((4 * mantissa + 2).log2 : Int) + 1 + (exponent - 2) := by omega
  simp only [Interval.coarsest, Interval.around]
  omega

theorem exponent_search_nonneg {i : Interval} {tie : Tie} (hpoint : (i.point? tie 0).isSome) (n : Nat)
    {e : Int} (he : 0 ≤ e) : 0 ≤ (i.search tie e n).exponent := by
  induction n generalizing e with
  | zero => exact he
  | succ n ih =>
    unfold Interval.search
    split
    next => exact he
    next hnone =>
      refine ih (e := e - 1) ?_
      have hne : e ≠ 0 := by
        rintro rfl
        rw [hnone] at hpoint
        cases hpoint
      omega

/-- The shortest decimal of a whole double has no digit after the point. -/
theorem isInteger_whole (hpos : 0 < mantissa) (h : IsWhole mantissa exponent) :
    IsInteger (plain.parts (.finite false mantissa exponent narrow)) := by
  have hexponent : 0 ≤ (shortest plain.tie mantissa exponent narrow).exponent :=
    exponent_search_nonneg (point?_zero_of_whole _ hpos h) 24 (coarsest_nonneg_of_whole hpos h)
  generalize hx : shortest plain.tie mantissa exponent narrow = x at hexponent
  have hdigits := isInteger_digitsOf x.digits
  have hpositional : plain.parts (.finite false mantissa exponent narrow) =
      positionalDigits plain (digitsOf x.digits) (x.exponent + (digitsOf x.digits).length) := by
    rw [← hx]
    simp [Style.parts, Style.scaled, plain, signText]
  rw [hpositional]
  exact isInteger_positionalDigits hdigits (by omega)

theorem not_isNumber_of_noNumeral {x : Float} (h : (Binary64.ofFloat x).NoNumeral) :
    ¬ IsNumber (plain.text x).toList := by
  rw [Style.text, String.toList_ofList]
  have hminus : ∀ word, ¬ IsNumber (signText true ++ word) := fun word =>
    not_isNumber_of_first (by decide) (by decide)
  cases hx : Binary64.ofFloat x with
  | nan => exact not_isNumber_of_first (by decide) (by decide)
  | infinite negative => cases negative <;> exact not_isNumber_of_first (by decide) (by decide)
  | zero negative =>
    cases negative with
    | true => exact hminus _
    | false =>
      have hzero : IsInteger ['0'] := ⟨by simp, by simp⟩
      exact hzero.not_isNumber
  | finite negative mantissa exponent narrow =>
    cases negative with
    | true => exact hminus _
    | false =>
      rw [hx] at h
      have hwhole : IsWhole mantissa exponent := h.resolve_left (by decide)
      exact (isInteger_whole (mantissa_pos hx) hwhole).not_isNumber

end Whole

theorem readSign_number {word : List Char} (h : IsNumber word) : readSign word = (false, word) := by
  cases word with
  | nil => exact absurd rfl h.ne_nil
  | cons c word =>
    have hc : c.isDigit ∨ c = '.' := (isNumber_cons.1 h).imp And.left And.left
    unfold readSign
    split <;> simp_all

theorem readName_number {word : List Char} (h : IsNumber word) : readName word = none := by
  obtain ⟨whole, fraction, rfl, _⟩ := h
  have hpoint : '.' ∈ (whole ++ '.' :: fraction).map Char.toLower :=
    List.mem_map.2 ⟨'.', by simp, by decide⟩
  have hname : ∀ name : String, '.' ∉ name.toList →
      String.ofList ((whole ++ '.' :: fraction).map Char.toLower) ≠ name := by
    rintro name hname rfl
    rw [String.toList_ofList] at hname
    exact hname hpoint
  have hinf := hname "inf" (by decide)
  have hinfinity := hname "infinity" (by decide)
  have hnan := hname "nan" (by decide)
  simp only [readName, hinf, hinfinity, hnan, decide_false, Bool.or_self, Bool.false_eq_true, if_false]

theorem readLiteral_number {word : List Char} (h : IsNumber word) : (readLiteral word).isSome := by
  obtain ⟨whole, fraction, rfl, hwhole, hne, hfraction⟩ := h
  have hpoint := digits_stop_at_point fraction
  have htake : fraction.takeWhile Char.isDigit = fraction := List.takeWhile_eq_self_iff.2 hfraction
  have hdrop : fraction.dropWhile Char.isDigit = [] := List.dropWhile_eq_nil_iff.2 hfraction
  simp [readLiteral, spanDigits, List.span_eq_takeWhile_dropWhile,
    takeWhile_append_of_stop hwhole hpoint, dropWhile_append_of_stop hwhole hpoint, htake, hdrop,
    hne, readExponent]

theorem read_number {word : String} (h : IsNumber word.toList) : ∃ x, read word = some x := by
  obtain ⟨literal, hliteral⟩ := Option.isSome_iff_exists.1 (readLiteral_number h)
  refine ⟨ofMagnitude false literal.bits, ?_⟩
  simp [read, readChars, readSign_number h, readName_number h, hliteral]

end Reckoner.Decimal
