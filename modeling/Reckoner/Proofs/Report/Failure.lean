import Reckoner.Proofs.Expr.Place
import Reckoner.Proofs.Lexer.Significant
import Reckoner.Report.Basic

/-! When a text has no report. The work up to the stage decides first: if it fails, the report fails with
the same error in every format, raw or not, and where the lexer fails, at every stage. Otherwise each
stage has reports in the available formats, and in no others. -/

namespace Reckoner

namespace Report

/-- Why the work on a text fails before the end of a stage, if it does. -/
def failure? (stage : Stage) (text : String) : Option SyntaxError :=
  match stage with
  | .token =>
    match lex text with
    | .error err => some (.lexical err)
    | .ok _ => none
  | .ast | .eval =>
    match Expr.ofText text with
    | .error e => some e
    | .ok _ => none

/-- The stage has a result in each format that is available for it, and in the others an error that
names the stage and the format. -/
def Serves (stage : Stage) (result : Format → Except SpecError String) : Prop :=
  ∀ format, if (⟨stage, format⟩ : Spec) ∈ Spec.available then ∃ report, result format = .ok report
    else result format = .error (.incompatible stage format)

theorem serves_ofTokens (settings : Settings) (ts : Tokens) :
    Serves .token (ofTokens settings ts) := by
  intro format
  cases format <;> simp [Spec.available, ofTokens]

theorem serves_ofExpr (settings : Settings) (e : Expr) : Serves .ast (ofExpr settings e) := by
  intro format
  cases format <;> simp [Spec.available, ofExpr]

theorem serves_ofValue (settings : Settings) (e : Expr) : Serves .eval (ofValue settings e) := by
  intro format
  cases format <;> simp [Spec.available, ofValue]

variable {stage : Stage} {format : Format} {text : String} {err : LexError} {e : SyntaxError}

theorem Serves.report_iff {result : Format → Except SpecError String} (h : Serves stage result)
    (format : Format) :
    ((∃ report, (result format).mapError ReportError.spec = .ok report) ↔
        ⟨stage, format⟩ ∈ Spec.available) ∧
      (⟨stage, format⟩ ∉ Spec.available →
        (result format).mapError ReportError.spec = .error (.spec (.incompatible stage format))) := by
  have hformat := h format
  split at hformat
  next havailable =>
    obtain ⟨report, hreport⟩ := hformat
    rw [hreport]
    exact ⟨iff_of_true ⟨report, rfl⟩ havailable, fun hnot => absurd havailable hnot⟩
  next hnot =>
    rw [hformat]
    exact ⟨iff_of_false (by rintro ⟨_, h⟩; cases h) hnot, fun _ => rfl⟩

/-- The lexer fails alike whether blanks are shown or not. -/
theorem lexAll_eq_error_iff : lexAll text = .error err ↔ lex text = .error err :=
  Lexer.tokenize_eq_error_iff.symm

theorem ofText_token (settings : Settings) (format : Format) (text : String) :
    ofText settings ⟨.token, format⟩ text =
      match if format.isRaw then lexAll text else lex text with
      | .error err => .error (.syntactic (.lexical err))
      | .ok ts => (ofTokens settings ts format).mapError .spec := by
  rw [← Expr.value_traceText]
  rfl

theorem ofText_ast (settings : Settings) (format : Format) (text : String) :
    ofText settings ⟨.ast, format⟩ text =
      match Expr.ofText text with
      | .error e => .error (.syntactic e)
      | .ok e => (ofExpr settings e format).mapError .spec := rfl

theorem ofText_eval (settings : Settings) (format : Format) (text : String) :
    ofText settings ⟨.eval, format⟩ text =
      match Expr.ofText text with
      | .error e => .error (.syntactic e)
      | .ok e => (ofValue settings e format).mapError .spec := rfl

/-- Where the lexer fails, the work fails at every stage. -/
theorem failure?_of_lex_error (h : lex text = .error err) (stage : Stage) :
    failure? stage text = some (.lexical err) := by
  cases stage with
  | token => simp only [failure?, h]
  | ast | eval => simp only [failure?, Expr.ofText_of_lex_error h]

theorem lex_error_of_failure? (h : failure? stage text = some (.lexical err)) :
    lex text = .error err := by
  cases hlex : lex text with
  | error err' =>
    rw [failure?_of_lex_error hlex] at h
    cases h
    rfl
  | ok ts =>
    -- Once there are tokens, an error can only be one of the parser.
    have htext := Expr.ofText_of_lex hlex
    cases stage with
    | token => simp [failure?, hlex] at h
    | ast | eval =>
      cases htokens : Expr.ofTokens ts <;> simp [failure?, htext, htokens, Except.mapError] at h

/-- A report is the error of the work before it, or what the stage serves. -/
theorem ofText_cases (settings : Settings) (stage : Stage) (format : Format) (text : String) :
    (∃ e, failure? stage text = some e ∧
        ofText settings ⟨stage, format⟩ text = .error (.syntactic e)) ∨
      failure? stage text = none ∧ ∃ result, Serves stage result ∧
        ofText settings ⟨stage, format⟩ text = (result format).mapError .spec := by
  cases stage with
  | token =>
    rw [ofText_token]
    cases hlex : lex text with
    | error err =>
      have hraw : (if format.isRaw then lexAll text else .error err) = .error err := by
        rw [lexAll_eq_error_iff.2 hlex, ite_self]
      exact .inl ⟨_, failure?_of_lex_error hlex _, by rw [hraw]⟩
    | ok ts =>
      obtain ⟨us, hus⟩ : ∃ us, (if format.isRaw then lexAll text else .ok ts) = .ok us := by
        cases hall : lexAll text with
        | error err => exact absurd (hlex.symm.trans (lexAll_eq_error_iff.1 hall)) (by simp)
        | ok us => cases format.isRaw <;> simp
      exact .inr ⟨by simp only [failure?, hlex], _, serves_ofTokens settings us, by rw [hus]⟩
  | ast =>
    rw [ofText_ast]
    cases htext : Expr.ofText text with
    | error e => exact .inl ⟨e, by simp only [failure?, htext], rfl⟩
    | ok e => exact .inr ⟨by simp only [failure?, htext], _, serves_ofExpr settings e, rfl⟩
  | eval =>
    rw [ofText_eval]
    cases htext : Expr.ofText text with
    | error e => exact .inl ⟨e, by simp only [failure?, htext], rfl⟩
    | ok e => exact .inr ⟨by simp only [failure?, htext], _, serves_ofValue settings e, rfl⟩

theorem ofText_of_failure? (h : failure? stage text = some e) (settings : Settings)
    (format : Format) : ofText settings ⟨stage, format⟩ text = .error (.syntactic e) := by
  rcases ofText_cases settings stage format text with ⟨e', he', hreport⟩ | ⟨hnone, _⟩
  · obtain rfl := Option.some.inj (h.symm.trans he')
    exact hreport
  · exact absurd (hnone.symm.trans h) (by simp)

/-- If the work on a text fails before the end of a stage, the report fails with the same error in every
format, and with an error of the lexer at every stage. If it does not fail, there is a report exactly
if the stage and the format are an available pair, and otherwise the error names this pair. -/
theorem ofText_outcome (stage : Stage) (text : String) :
    (∀ e, failure? stage text = some e →
      (∀ settings format, ofText settings ⟨stage, format⟩ text = .error (.syntactic e)) ∧
      ∀ err, e = .lexical err →
        ∀ settings spec, ofText settings spec text = .error (.syntactic e)) ∧
    (failure? stage text = none → ∀ settings format,
      ((∃ report, ofText settings ⟨stage, format⟩ text = .ok report) ↔
        ⟨stage, format⟩ ∈ Spec.available) ∧
      (⟨stage, format⟩ ∉ Spec.available →
        ofText settings ⟨stage, format⟩ text = .error (.spec (.incompatible stage format)))) := by
  refine ⟨fun e he => ⟨ofText_of_failure? he, ?_⟩, fun hnone settings format => ?_⟩
  · rintro err rfl settings ⟨stage', format⟩
    have hlex := lex_error_of_failure? he
    exact ofText_of_failure? (failure?_of_lex_error hlex stage') settings format
  · rcases ofText_cases settings stage format text with ⟨e, he, _⟩ | ⟨_, result, hserves, hreport⟩
    · exact absurd (hnone.symm.trans he) (by simp)
    · rw [hreport]
      exact hserves.report_iff format

/-- An integer fails at every stage and in every format, a missing operand in every format of the stages
that need an expression, and a pair that is not available only where the text is right. -/
theorem ofText_outcome_each :
    let integer := SyntaxError.lexical ⟨'2', 6, ⟨0, 6⟩⟩
    let missing := SyntaxError.grammatical (.unexpectedEnd .operand)
    (failure? .eval "1.5 + 2" = some integer ∧
      ∀ settings spec, ofText settings spec "1.5 + 2" = .error (.syntactic integer)) ∧
    (failure? .ast "1.5 +" = some missing ∧
      ∀ settings format, ofText settings ⟨.ast, format⟩ "1.5 +" = .error (.syntactic missing)) ∧
    failure? .token "1.5 +" = none ∧ ∀ settings,
      (∃ report, ofText settings ⟨.token, .rawJson⟩ "1.5 +" = .ok report) ∧
      ofText settings ⟨.token, .yaml⟩ "1.5 +" = .error (.spec (.incompatible .token .yaml)) := by
  intro integer missing
  have hinteger : failure? .eval "1.5 + 2" = some integer := by decide +kernel
  have hmissing : failure? .ast "1.5 +" = some missing := by decide +kernel
  have hnone : failure? .token "1.5 +" = none := by decide +kernel
  refine ⟨⟨hinteger, ((ofText_outcome _ _).1 _ hinteger).2 _ rfl⟩,
    ⟨hmissing, ((ofText_outcome _ _).1 _ hmissing).1⟩, hnone, fun settings => ⟨?_, ?_⟩⟩
  · exact ((ofText_outcome _ _).2 hnone settings .rawJson).1.2 (by decide)
  · exact ((ofText_outcome _ _).2 hnone settings .yaml).2 (by decide)

end Report

end Reckoner
