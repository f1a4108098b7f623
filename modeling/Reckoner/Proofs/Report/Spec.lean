import Reckoner.Report.Spec

/-! Specs and their texts. The name of a stage has no hyphen, so a spec is known from its text though the
names of formats have hyphens of their own. A text that is none of an available spec is refused for
the first thing that is wrong with it. -/

namespace Reckoner

theorem Stage.ofName?_eq_some {s : String} {stage : Stage} :
    Stage.ofName? s = some stage ↔ stage.name = s := by
  constructor
  · intro h
    unfold Stage.ofName? at h
    split at h <;> cases h <;> rfl
  · rintro rfl
    cases stage <;> rfl

theorem Stage.ofName?_eq_none {s : String} :
    Stage.ofName? s = none ↔ ∀ stage : Stage, stage.name ≠ s := by
  simp only [Option.eq_none_iff_forall_ne_some, ne_eq, Stage.ofName?_eq_some]

theorem Stage.hyphen_not_mem_name (stage : Stage) : '-' ∉ stage.name.toList := by
  cases stage <;> decide

theorem Format.ofName?_eq_some {s : String} {format : Format} :
    Format.ofName? s = some format ↔ format.name = s := by
  constructor
  · intro h
    unfold Format.ofName? at h
    split at h <;> cases h <;> rfl
  · rintro rfl
    cases format <;> rfl

theorem Format.ofName?_eq_none {s : String} :
    Format.ofName? s = none ↔ ∀ format : Format, format.name ≠ s := by
  simp only [Option.eq_none_iff_forall_ne_some, ne_eq, Format.ofName?_eq_some]

namespace Spec

variable {s a b : String} {spec : Spec} {e : SpecError}

theorem splitHyphen_of_not_mem {cs : List Char} (h : '-' ∉ cs) : splitHyphen cs = none := by
  induction cs with
  | nil => rfl
  | cons c cs ih =>
    obtain ⟨hc, hcs⟩ := not_or.1 (mt List.mem_cons.2 h)
    rw [splitHyphen, if_neg (Ne.symm hc), ih hcs]
    rfl

theorem splitHyphen_append {before after : List Char} (h : '-' ∉ before) :
    splitHyphen (before ++ '-' :: after) = some (before, after) := by
  induction before with
  | nil => rfl
  | cons c before ih =>
    obtain ⟨hc, hbefore⟩ := not_or.1 (mt List.mem_cons.2 h)
    rw [List.cons_append, splitHyphen, if_neg (Ne.symm hc), ih hbefore]
    rfl

/-- The text is refused as a spec for the reason. -/
inductive Refused : String → SpecError → Prop
  | noHyphen {s : String} : '-' ∉ s.toList → Refused s (.noHyphen s)
  | unknownStage {a b : String} :
      '-' ∉ a.toList → (∀ stage : Stage, stage.name ≠ a) → Refused (a ++ "-" ++ b) (.unknownStage a)
  | unknownFormat {stage : Stage} {b : String} :
      (∀ format : Format, format.name ≠ b) → Refused (stage.name ++ "-" ++ b) (.unknownFormat b)
  | incompatible {spec : Spec} :
      spec ∉ available → Refused spec.text (.incompatible spec.stage spec.format)

theorem ofText_of_not_mem (h : '-' ∉ s.toList) : ofText s = .error (.noHyphen s) := by
  rw [ofText, splitHyphen_of_not_mem h]

/-- What stands before the first hyphen is read as a stage, and all that stands after it as a format. -/
theorem ofText_append (ha : '-' ∉ a.toList) :
    ofText (a ++ "-" ++ b) =
      match Stage.ofName? a with
      | none => .error (.unknownStage a)
      | some stage =>
        match Format.ofName? b with
        | none => .error (.unknownFormat b)
        | some format =>
          if (⟨stage, format⟩ : Spec) ∈ available then .ok ⟨stage, format⟩
          else .error (.incompatible stage format) := by
  have htext : (a ++ "-" ++ b).toList = a.toList ++ '-' :: b.toList := by simp
  rw [ofText, htext, splitHyphen_append ha]
  cases hstage : Stage.ofName? a with
  | none => simp [hstage]
  | some stage => cases hformat : Format.ofName? b <;> simp [hstage, hformat]

theorem ofText_text (spec : Spec) :
    ofText spec.text =
      if spec ∈ available then .ok spec else .error (.incompatible spec.stage spec.format) := by
  rw [text, ofText_append spec.stage.hyphen_not_mem_name, Stage.ofName?_eq_some.2 rfl,
    Format.ofName?_eq_some.2 rfl]

theorem Refused.ofText_eq (h : Refused s e) : ofText s = .error e := by
  cases h with
  | noHyphen h => exact ofText_of_not_mem h
  | unknownStage ha hstage => rw [ofText_append ha, Stage.ofName?_eq_none.2 hstage]
  | @unknownFormat stage b hformat =>
    rw [ofText_append stage.hyphen_not_mem_name, Stage.ofName?_eq_some.2 rfl,
      Format.ofName?_eq_none.2 hformat]
  | @incompatible spec h => rw [ofText_text, if_neg h]

theorem exists_append_of_hyphen (h : '-' ∈ s.toList) :
    ∃ a b, s = a ++ "-" ++ b ∧ '-' ∉ a.toList := by
  obtain ⟨before, after, hsplit, hbefore⟩ := List.eq_append_cons_of_mem h
  refine ⟨String.ofList before, String.ofList after, String.toList_injective ?_, ?_⟩
  · simp [hsplit]
  · rwa [String.toList_ofList]

/-- Every text is that of an available spec, or there is a reason to refuse it. -/
theorem exists_text_or_refused (s : String) :
    (∃ spec ∈ available, spec.text = s) ∨ ∃ e, Refused s e := by
  by_cases hs : '-' ∈ s.toList
  · obtain ⟨a, b, rfl, ha⟩ := exists_append_of_hyphen hs
    by_cases hstage : ∃ stage : Stage, stage.name = a
    · obtain ⟨stage, rfl⟩ := hstage
      by_cases hformat : ∃ format : Format, format.name = b
      · obtain ⟨format, rfl⟩ := hformat
        by_cases havailable : (⟨stage, format⟩ : Spec) ∈ available
        · exact .inl ⟨⟨stage, format⟩, havailable, rfl⟩
        · exact .inr ⟨_, .incompatible havailable⟩
      · exact .inr ⟨_, .unknownFormat (not_exists.1 hformat)⟩
    · exact .inr ⟨_, .unknownStage ha (not_exists.1 hstage)⟩
  · exact .inr ⟨_, .noHyphen hs⟩

/-- A text is read as an available spec exactly if this spec is written so. Any other text is refused: for
want of a hyphen; else for what stands before the first hyphen, if this names no stage; else for what
stands after it, if this names no format; else for the stage and the format that it names. -/
theorem ofText_undoes_text (s : String) :
    (∀ spec, ofText s = .ok spec ↔ spec ∈ available ∧ spec.text = s) ∧
    ∀ e, ofText s = .error e ↔ Refused s e := by
  have hwritten : ∀ spec ∈ available, ofText spec.text = .ok spec := by
    intro spec hspec
    rw [ofText_text, if_pos hspec]
  refine ⟨fun spec => ⟨fun h => ?_, ?_⟩, fun e => ⟨fun h => ?_, Refused.ofText_eq⟩⟩
  · rcases exists_text_or_refused s with ⟨spec', hspec', rfl⟩ | ⟨e, he⟩
    · cases (hwritten spec' hspec').symm.trans h
      exact ⟨hspec', rfl⟩
    · cases he.ofText_eq.symm.trans h
  · rintro ⟨hspec, rfl⟩
    exact hwritten spec hspec
  · rcases exists_text_or_refused s with ⟨spec, hspec, rfl⟩ | ⟨e', he'⟩
    · cases (hwritten spec hspec).symm.trans h
    · cases he'.ofText_eq.symm.trans h
      exact he'

/-- The hyphen in the name of a format is none between a stage and a format. -/
example : ofText "token-raw-simple" = .ok ⟨.token, .rawSimple⟩ := rfl

end Spec

end Reckoner
