import Reckoner.Proofs.Automaton.Simulation
import Reckoner.Proofs.Lexer.Scan

/-! Ignorable patterns. The two ways to tokenize make the same pass and fail alike. A token is left
out for the pattern of its lexeme, the first that matches it, and not for its kind, which other
patterns may have too. -/

namespace Reckoner

theorem Automaton.matchWord_iff {a : Automaton} {word : List Char} :
    (a.matchWord word).2 = true ↔ a.Accepts word := by
  rw [matchWord, run_eq, accepts_applyAll_reset]

namespace Lexer

variable {κ : Type} {patterns : List (Pattern κ)} {lexer : Lexer κ} {text word : String}
  {p : Pattern κ} {t : Token κ} {ts : List (Token κ)} {e : LexError}

/-- The pattern of the lowest index that matches the word. -/
def patternOf? (patterns : List (Pattern κ)) (word : String) : Option (Pattern κ) :=
  patterns.find? fun p => (p.automaton.matchWord word.toList).2

/-- Whether the token stays when the lexemes of ignorable patterns are left out. -/
def keeps (lexer : Lexer κ) (t : Token κ) : Bool :=
  (patternOf? lexer.patterns t.lexeme).any fun p => !p.ignorable

theorem keeps_eq (h : patternOf? lexer.patterns t.lexeme = some p) :
    lexer.keeps t = !p.ignorable := by
  rw [keeps, h, Option.any_some]

theorem patternOf?_eq_some_iff :
    patternOf? patterns word = some p ↔ First patterns word.toList p := by
  rw [patternOf?, List.find?_eq_some_iff_getElem, Automaton.matchWord_iff]
  constructor
  · rintro ⟨hacc, i, hi, rfl, hbefore⟩
    refine ⟨i, List.getElem?_eq_getElem hi, hacc, fun j q hj hq hqacc => ?_⟩
    obtain ⟨hlt, rfl⟩ := List.getElem?_eq_some_iff.1 hq
    have hnot := hbefore j hj
    rw [Automaton.matchWord_iff.2 hqacc] at hnot
    cases hnot
  · rintro ⟨i, hi, hacc, hbefore⟩
    obtain ⟨hlt, rfl⟩ := List.getElem?_eq_some_iff.1 hi
    refine ⟨hacc, i, hlt, rfl, fun j hj => ?_⟩
    have hnot := hbefore j _ hj (List.getElem?_eq_getElem (by omega))
    rw [← Automaton.matchWord_iff, Bool.not_eq_true] at hnot
    rw [hnot]
    rfl

theorem patternOf?_congr {patterns' : List (Pattern κ)}
    (h : patterns.map Pattern.reset = patterns'.map Pattern.reset) (word : String) :
    (patternOf? patterns word).map Pattern.reset =
      (patternOf? patterns' word).map Pattern.reset := by
  have hreset : ∀ ps : List (Pattern κ),
      (patternOf? ps word).map Pattern.reset = patternOf? (ps.map Pattern.reset) word := by
    intro ps
    rw [patternOf?, patternOf?, List.find?_map]
    rfl
  rw [hreset, hreset, h]

/-- A token has the kind and the mark of the pattern of its lexeme. -/
theorem patternOf?_of_mem_found {index : LineIndex} {offset : Nat} {cs : List Char}
    {ignorable : Bool} (h : (t, ignorable) ∈ (scan index patterns offset cs).found) :
    ∃ p, patternOf? patterns t.lexeme = some p ∧ p.kind = t.kind ∧ p.ignorable = ignorable := by
  fun_induction scan index patterns offset cs with
  | case1 => simp at h
  | case2 => simp at h
  | case3 patterns offset c cs runners after m hw lexeme stop token _ rest ih =>
    rcases List.mem_cons.1 h with hhead | hlater
    · obtain ⟨rfl, rfl⟩ := Prod.mk.inj hhead
      obtain ⟨_, p, hfirst, hreset⟩ := winner_attempt_eq_some hw
      refine ⟨p, patternOf?_eq_some_iff.2 ?_, ?_, ?_⟩
      · rwa [String.toList_ofList]
      · exact (congrArg Pattern.kind hreset).symm
      · exact (congrArg Pattern.ignorable hreset).symm
    · -- The pass goes on with the patterns of the attempt, which differ in live states only.
      obtain ⟨p, hp, hkind, hmark⟩ := ih hlater
      have hsame := patternOf?_congr (reset_attempt patterns (c :: cs)) t.lexeme
      rw [hp, Option.map_some] at hsame
      obtain ⟨q, hq, hreset⟩ := Option.map_eq_some_iff.1 hsame.symm
      refine ⟨q, hq, ?_, ?_⟩
      · exact (congrArg Pattern.kind hreset).trans hkind
      · exact (congrArg Pattern.ignorable hreset).trans hmark

theorem patternOf?_of_mem (h : (lexer.tokenizeAll text).2 = .ok ts) (ht : t ∈ ts) :
    ∃ p, patternOf? lexer.patterns t.lexeme = some p ∧ p.kind = t.kind := by
  obtain ⟨_, rfl⟩ := Scan.allTokens_eq_ok.1 h
  obtain ⟨⟨u, ignorable⟩, hfound, rfl⟩ := List.mem_map.1 ht
  obtain ⟨p, hp, hkind, _⟩ := patternOf?_of_mem_found hfound
  exact ⟨p, hp, hkind⟩

theorem tokenize_eq (lexer : Lexer κ) (text : String) :
    (lexer.tokenize text).2 = (lexer.tokenizeAll text).2.map (List.filter lexer.keeps) := by
  have hmarks : ∀ found ∈ (lexer.scanText text).found, (!found.2) = lexer.keeps found.1 := by
    intro found hfound
    obtain ⟨p, hp, _, hmark⟩ := patternOf?_of_mem_found hfound
    rw [keeps_eq hp, hmark]
  show (lexer.scanText text).tokens = (lexer.scanText text).allTokens.map _
  unfold Scan.tokens Scan.allTokens
  split
  next =>
    rw [Except.map, List.filter_map]
    exact congrArg (fun found => Except.ok (found.map Prod.fst)) (List.filter_congr hmarks)
  next => rfl

theorem tokenize_eq_error_iff :
    (lexer.tokenize text).2 = .error e ↔ (lexer.tokenizeAll text).2 = .error e := by
  rw [tokenize_eq]
  cases (lexer.tokenizeAll text).2 <;> simp [Except.map]

end Lexer

end Reckoner
