import Reckoner.Text.Escape

/-! Escaping text for XML. The passes over the whole text, one for each of five characters, amount to
one substitution, character by character. Reading the entities from the left gives the text back. -/

namespace Reckoner.Text

/-- The characters that have a meaning in XML. -/
def xmlChars : List Char := ['&', '<', '>', '"', '\'']

/-- What stands in the entities after the ampersand. -/
def entityNames : List String := ["amp;", "lt;", "gt;", "quot;", "apos;"]

/-- The characters of entities. -/
def entityChars : List Char := '&' :: entityNames.flatMap String.toList

variable {c : Char} {word before after cs : List Char} {text : String}

theorem forall_mem_xmlChars {p : Char → Prop} :
    (∀ c ∈ xmlChars, p c) ↔ p '&' ∧ p '<' ∧ p '>' ∧ p '"' ∧ p '\'' := by
  simp [xmlChars]

theorem not_mem_entityName : ∀ name ∈ entityNames, ∀ c ∈ xmlChars, c ∉ name.toList := by
  simp only [forall_mem_xmlChars]
  decide

theorem not_mem_entityChars : ∀ c ∈ xmlChars, c ≠ '&' → c ∉ entityChars :=
  forall_mem_xmlChars.2 (by decide)

theorem entity_of_mem : ∀ c ∈ xmlChars, ∃ name ∈ entityNames, entity c = '&' :: name.toList :=
  forall_mem_xmlChars.2 ⟨⟨"amp;", by decide⟩, ⟨"lt;", by decide⟩, ⟨"gt;", by decide⟩,
    ⟨"quot;", by decide⟩, ⟨"apos;", by decide⟩⟩

theorem entity_of_not_mem (hc : c ∉ xmlChars) : entity c = [c] := by
  simp only [xmlChars, List.mem_cons, List.not_mem_nil, or_false, not_or] at hc
  unfold entity
  split <;> simp_all

/-- Each pass leaves alone what the passes before it have put in. -/
theorem toList_escapeXml (text : String) : (escapeXml text).toList = text.toList.flatMap entity := by
  simp only [escapeXml, String.toList_ofList, replaceChar, List.flatMap_assoc]
  refine congrArg (text.toList.flatMap ·) (funext fun c => ?_)
  by_cases hc : c ∈ xmlChars
  · revert c
    -- For each of the five the later passes find nothing in its entity.
    exact forall_mem_xmlChars.2 (by decide)
  · rw [entity_of_not_mem hc]
    simp only [xmlChars, List.mem_cons, List.not_mem_nil, or_false, not_or] at hc
    simp only [hc, if_false, List.flatMap_singleton]

theorem escapeXml_append (a b : String) : escapeXml (a ++ b) = escapeXml a ++ escapeXml b := by
  refine String.toList_injective ?_
  simp only [toList_escapeXml, String.toList_append, List.flatMap_append]

/-- Escaped text has the characters of entities, and of the text those without a meaning in XML. -/
theorem not_mem_escapeXml {text : String} (hc : c ∉ entityChars)
    (htext : c ∈ text.toList → c ∈ xmlChars) : c ∉ (escapeXml text).toList := by
  rw [toList_escapeXml]
  intro h
  obtain ⟨d, hd, hmem⟩ := List.mem_flatMap.1 h
  by_cases hspecial : d ∈ xmlChars
  · obtain ⟨name, hname, hentity⟩ := entity_of_mem d hspecial
    rw [hentity] at hmem
    refine hc ((List.mem_cons.1 hmem).elim (fun h => h ▸ List.mem_cons_self) fun h => ?_)
    exact List.mem_cons_of_mem _ (List.mem_flatMap.2 ⟨name, hname, h⟩)
  · rw [entity_of_not_mem hspecial] at hmem
    obtain rfl := List.mem_singleton.1 hmem
    exact hspecial (htext hd)

theorem exists_of_word_append (hc : c ∉ word) (h : word ++ cs = before ++ c :: after) :
    ∃ others, cs = others ++ c :: after := by
  rcases List.append_eq_append_iff.1 h with ⟨others, _, hcs⟩ | ⟨others, hword, hafter⟩
  · exact ⟨others, hcs⟩
  · cases others with
    | nil => exact ⟨[], hafter.symm⟩
    | cons d others =>
      obtain ⟨rfl, _⟩ := List.cons.inj hafter
      exact absurd (by simp [hword]) hc

/-- An ampersand in escaped text begins an entity. -/
theorem exists_entityName (h : cs.flatMap entity = before ++ '&' :: after) :
    ∃ name ∈ entityNames, name.toList <+: after := by
  induction cs generalizing before with
  | nil => simp at h
  | cons c cs ih =>
    rw [List.flatMap_cons] at h
    by_cases hc : c ∈ xmlChars
    · obtain ⟨name, hname, hentity⟩ := entity_of_mem c hc
      rw [hentity, List.cons_append] at h
      -- The ampersand is that of the first entity, or it stands behind this entity.
      cases before with
      | nil => exact ⟨name, hname, _, (List.cons.inj h).2⟩
      | cons d before =>
        have hamp : '&' ∉ name.toList := not_mem_entityName name hname '&' (by decide)
        obtain ⟨others, hothers⟩ := exists_of_word_append hamp (List.cons.inj h).2
        exact ih hothers
    · rw [entity_of_not_mem hc] at h
      have hamp : '&' ∉ [c] := by
        intro hmem
        obtain rfl := List.mem_singleton.1 hmem
        exact hc (by decide)
      obtain ⟨others, hothers⟩ := exists_of_word_append hamp h
      exact ih hothers

theorem resolve_of_ne (hc : c ≠ '&') (cs : List Char) : resolve (c :: cs) = c :: resolve cs := by
  rw [resolve] <;> exact fun _ hamp => absurd hamp hc

theorem resolve_entity (c : Char) (cs : List Char) : resolve (entity c ++ cs) = c :: resolve cs := by
  by_cases hc : c ∈ xmlChars
  · revert c
    exact forall_mem_xmlChars.2 ⟨rfl, rfl, rfl, rfl, rfl⟩
  · rw [entity_of_not_mem hc]
    refine resolve_of_ne ?_ cs
    rintro rfl
    exact hc (by decide)

theorem resolve_flatMap_entity (cs : List Char) : resolve (cs.flatMap entity) = cs := by
  induction cs with
  | nil => rfl
  | cons c cs ih => rw [List.flatMap_cons, resolve_entity, ih]

theorem unescapeXml_escapeXml (text : String) : unescapeXml (escapeXml text) = text := by
  rw [unescapeXml, toList_escapeXml, resolve_flatMap_entity, String.ofList_toList]

/-- Escaped text is the text with entities in the place of five characters. It has none of these but
ampersands, and each of them begins an entity. Joined texts may be escaped apart. Reading the entities
in one pass gives the text back, also where it has entities itself. -/
theorem escapeXml_single_pass (text : String) :
    escapeXml text = String.ofList (text.toList.flatMap entity) ∧
      (∀ c ∈ ['<', '>', '"', '\''], c ∉ (escapeXml text).toList) ∧
      (∀ before after, (escapeXml text).toList = before ++ '&' :: after →
        ∃ name ∈ entityNames, name.toList <+: after) ∧
      (∀ more, escapeXml (text ++ more) = escapeXml text ++ escapeXml more) ∧
      unescapeXml (escapeXml text) = text := by
  refine ⟨?_, fun c hc => ?_, fun before after h => ?_, escapeXml_append text,
    unescapeXml_escapeXml text⟩
  · rw [← toList_escapeXml, String.ofList_toList]
  · have hxml : c ∈ xmlChars := List.mem_cons_of_mem '&' hc
    have hne : c ≠ '&' := by
      rintro rfl
      exact absurd hc (by decide)
    exact not_mem_escapeXml (not_mem_entityChars c hxml hne) fun _ => hxml
  · rw [toList_escapeXml] at h
    exact exists_entityName h

/-- A text with an entity in it, whose ampersand is escaped. -/
theorem escapeXml_single_pass_of_entity :
    (escapeXml "<&lt;").toList = "&lt;".toList ++ '&' :: "amp;lt;".toList ∧
      (∃ name ∈ entityNames, name.toList <+: "amp;lt;".toList) ∧ '<' ∉ (escapeXml "<&lt;").toList ∧
      unescapeXml (escapeXml "<&lt;") = "<&lt;" := by
  obtain ⟨_, hchars, hamp, _, hread⟩ := escapeXml_single_pass "<&lt;"
  have htext : (escapeXml "<&lt;").toList = "&lt;".toList ++ '&' :: "amp;lt;".toList := by decide
  exact ⟨htext, hamp _ _ htext, hchars '<' (by decide), hread⟩

end Reckoner.Text
