import MarcHarvest.Proofs.Batch.Isolation
import MarcHarvest.Proofs.Derivation.Distinct
import MarcHarvest.Proofs.Extractor.Compilation

/-!
# Derived and selected values

A derivation meets the selected values only at its end: it appends what it finds by itself, subject
headings without those that were selected. Only language names take the place of the selected
values, and they depend on nothing else (`apply_eq_extend`). So an extractor with a derivation gives
what the same configuration selects without it, extended by what the derivation gives alone
(`compile_extends`).
-/

namespace MarcHarvest

/-! ## One derivation -/

namespace Derivation

/-- The selected values after a derivation that gives certain values alone. -/
def extend (d : Derivation) (languages : LanguageTable) (selected derived : List String) :
    List String :=
  match d with
  | sortTitle | sortAuthor | publicationDate => selected ++ derived
  | languageNames => languages.namesIn selected
  | subjectHeadings => selected ++ derived.filter (· ∉ selected)

/-- No derivation reads the selected values but to leave them out, or to name them. -/
theorem apply_eq_extend (d : Derivation) (index : Index) (languages : LanguageTable)
    (selected : List String) :
    d.apply index languages selected =
      d.extend languages selected (d.apply index languages []) := by
  cases d with
  | sortTitle => simp only [apply, extend, List.nil_append]
  | sortAuthor => simp only [apply, extend, List.nil_append]
  | publicationDate => simp only [apply, extend, List.nil_append]
  | languageNames => rfl
  | subjectHeadings => exact addAllDistinct_eq_append _ _

theorem length_apply_le_one {d : Derivation} (hd : d ∈ [sortTitle, sortAuthor, publicationDate])
    (index : Index) (languages : LanguageTable) : (d.apply index languages []).length ≤ 1 := by
  have htoList : ∀ v : Option String, v.toList.length ≤ 1 := by
    intro v
    cases v <;> simp
  simp only [List.mem_cons, List.not_mem_nil, or_false] at hd
  rcases hd with rfl | rfl | rfl <;> simp only [apply, List.nil_append] <;> exact htoList _

/-- How the values with a derivation follow from those without it and from those of the derivation
alone, for every record. -/
structure Extends (d : Derivation) (languages : LanguageTable)
    (selected derived result : RecordView → List String) : Prop where
  /-- Sort keys and dates are appended, at most one. -/
  single : d ∈ [sortTitle, sortAuthor, publicationDate] → ∀ record,
    result record = selected record ++ derived record ∧ (derived record).length ≤ 1
  /-- Headings are appended without those that were selected. -/
  headings : d = subjectHeadings → ∀ record,
    result record = selected record ++ (derived record).filter (· ∉ selected record)
  /-- Language names depend on the selected values and the table alone. -/
  names : d = languageNames → ∀ record, result record = languages.namesIn (selected record)
  names_congr : d = languageNames → ∀ record record', selected record = selected record' →
    result record = result record'
  /-- Every other derivation leaves the selected values as they are. -/
  keeps : d ≠ languageNames → ∀ record, selected record <+: result record

theorem extends_of_eq_extend {d : Derivation} {languages : LanguageTable}
    {selected derived result : RecordView → List String}
    (h : ∀ record, result record = d.extend languages (selected record) (derived record))
    (hone : d ∈ [sortTitle, sortAuthor, publicationDate] → ∀ record,
      (derived record).length ≤ 1) :
    d.Extends languages selected derived result where
  single hd record := by
    refine ⟨?_, hone hd record⟩
    simp only [List.mem_cons, List.not_mem_nil, or_false] at hd
    rcases hd with rfl | rfl | rfl <;> exact h record
  headings hd record := by
    subst hd
    exact h record
  names hd record := by
    subst hd
    exact h record
  names_congr hd record record' hselected := by
    subst hd
    rw [h, h, hselected]
    rfl
  keeps hd record := by
    rw [h]
    cases d with
    | sortTitle => exact List.prefix_append _ _
    | sortAuthor => exact List.prefix_append _ _
    | publicationDate => exact List.prefix_append _ _
    | languageNames => exact absurd rfl hd
    | subjectHeadings => exact List.prefix_append _ _

end Derivation

/-! ## Extractors -/

namespace Extractor

variable {e : Extractor} {d : Derivation}

theorem alone_of_derivation (hd : e.derivation = some d) (languages : LanguageTable)
    (record : RecordView) :
    e.alone languages record =
      d.apply (.build record (interestOf [e])) languages (e.scan record) := by
  rw [alone, values, hd, selectedValues_build (Interest.Includes.refl _)]

theorem alone_of_no_components (hd : e.derivation = some d) (languages : LanguageTable)
    (record : RecordView) :
    { e with components := [] }.alone languages record =
      d.apply (.build record (interestOf [{ e with components := [] }])) languages [] := by
  have hd' : { e with components := [] }.derivation = some d := hd
  have hscan : { e with components := [] }.scan record = [] := by
    simp [scan, scanControl, scanField]
  rw [alone_of_derivation hd', hscan]

theorem alone_eq_extend (hd : e.derivation = some d) (languages : LanguageTable)
    (record : RecordView) :
    e.alone languages record =
      d.extend languages ({ e with derivation := none }.alone languages record)
        ({ e with components := [] }.alone languages record) := by
  have hselected : { e with derivation := none }.alone languages record = e.scan record :=
    alone_eq_scan (e := { e with derivation := none }) rfl languages record
  have hderived : { e with components := [] }.alone languages record =
      d.apply (.build record (interestOf [e])) languages [] := by
    have hd' : { e with components := [] }.derivation = some d := hd
    have hsupplied := supplied_of_includes (Interest.Includes.refl _) hd
    have hsupplied' := supplied_of_includes (Interest.Includes.refl _) hd'
    rw [alone_of_no_components hd]
    exact Derivation.apply_build_eq hsupplied' hsupplied record languages []
  rw [alone_of_derivation hd, Derivation.apply_eq_extend, hselected, hderived]

end Extractor

namespace Config

/-- **Derivations extend the selected values.** A configuration with a derivation also compiles
without it and without its field spec, and the values of the three extractors go together on every
record and with every table. -/
theorem compile_extends {c : Config} {e : Extractor} {d : Derivation} (hc : c.compile = .ok e)
    (hd : c.function = some d.identifier) :
    ∃ plain sole, { c with function := none }.compile = .ok plain ∧
      { c with fieldSpec := none }.compile = .ok sole ∧
      ∀ languages, d.Extends languages (plain.alone languages) (sole.alone languages)
        (e.alone languages) := by
  have hderivation := derivation_of_compile hc hd
  refine ⟨_, _, compile_without_function hc, compile_without_fieldSpec hc, fun languages => ?_⟩
  refine Derivation.extends_of_eq_extend (fun record => ?_) fun hone record => ?_
  · exact Extractor.alone_eq_extend hderivation languages record
  · rw [Extractor.alone_of_no_components hderivation]
    exact Derivation.length_apply_le_one hone _ languages

/-- A record with codes of languages, run together and repeated. -/
def bilingual : RecordView where
  control := []
  fields := [⟨"041", ' ', ' ', [⟨'a', "engfre"⟩, ⟨'a', "eng"⟩]⟩]

def twoLanguages : LanguageTable := .ofPairs [("eng", "English"), ("fre", "French")]

theorem compile_extends_bilingual :
    let c : Config := {
      name := "languages"
      fieldSpec := some "041a"
      function := some "languageMap" }
    ∃ e, c.compile = .ok e ∧ c.function = some Derivation.languageNames.identifier ∧
      e.alone twoLanguages bilingual = ["English", "French"] := by
  intro c
  obtain ⟨e, hc⟩ : ∃ e, c.compile = .ok e := ⟨_, rfl⟩
  refine ⟨e, hc, rfl, ?_⟩
  obtain ⟨plain, sole, hplain, -, hextends⟩ :=
    compile_extends (d := .languageNames) hc rfl
  have hselected : plain.alone twoLanguages bilingual = ["engfre", "eng"] := by
    obtain rfl := Except.ok.inj hplain
    rw [Extractor.alone_eq_scan rfl]
    decide
  rw [(hextends twoLanguages).names rfl, hselected]
  decide

end Config

end MarcHarvest
