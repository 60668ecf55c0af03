import MarcHarvest.Proofs.Batch.Isolation
import MarcHarvest.Proofs.Derivation.LookUps

/-!
# The interest of a batch

What a batch has its index hold is collected from declarations: the tags of components, and what
each derivation says of itself. What its extractors ask of the index is up to the code that runs
them. To ask for a tag that nobody declared would be no error; its fields would be missing without
notice.

Here the extractors are written as inquiries, and every question that a run can ask turns out to be
covered by the collected interest (`asksOnly_values`). The interest itself is a set of tags, which
no order of the extractors can change (`interestOf_exact`).
-/

namespace MarcHarvest

theorem Component.isControl_iff (c : Component) : c.isControl ↔ "00".toList <+: c.tag.toList := by
  rw [isControl, isControlTag, beq_iff_eq, List.prefix_iff_eq_take, eq_comm]
  rfl

/-! ## Extractors as inquiries -/

namespace Inquiry

open Extractor (Found)

variable {index : Index}

def controlValues (c : Component) : Inquiry (List Found) := do
  match ← control c.tag with
  | none => return []
  | some entry => match c.offset with
    | none => return [(entry.origin, entry.value)]
    | some offset =>
      return (offset.select? entry.value.toList).toList.map fun l =>
        (entry.origin, String.ofList l)

/-- Asks for fields, unless they do not count. -/
def fieldsIf (counts : Bool) (fields : Inquiry (List PlacedField)) : Inquiry (List PlacedField) :=
  if counts then fields else pure []

def entries (e : Extractor) (c : Component) : Inquiry (List PlacedField) := do
  let directFields ← fieldsIf e.scripts.includesDirect (direct c.tag)
  let linkedFields ← fieldsIf e.scripts.includesLinked (linked c.tag)
  return directFields ++ linkedFields

def componentValues (e : Extractor) (c : Component) : Inquiry (List Found) :=
  if c.isControl then controlValues c
  else do
    let fields ← entries e c
    return fields.flatMap fun entry =>
      (e.fieldValues c entry.field).map fun v => (entry.origin, v)

def selectedValues (e : Extractor) : Inquiry (List String) := do
  let found ← e.components.mapM (componentValues e)
  return (found.flatten.mergeSort fun a b => a.1.le b.1).map Prod.snd

def values (e : Extractor) (languages : LanguageTable) : Inquiry (List String) := do
  let selected ← selectedValues e
  match e.derivation with
  | some d => apply d languages selected
  | none => return selected

/-! ## Their values -/

theorem run_controlValues (c : Component) :
    (controlValues c).run index = Extractor.controlValues c index := by
  rw [controlValues, run_bind, run_control, Extractor.controlValues]
  cases index.controlField? c.tag with
  | none => rfl
  | some entry => cases c.offset <;> rfl

theorem run_fieldsIf (counts : Bool) (fields : Inquiry (List PlacedField)) :
    (fieldsIf counts fields).run index = if counts then fields.run index else [] := by
  cases counts <;> rfl

theorem run_entries (e : Extractor) (c : Component) :
    (entries e c).run index = e.entries c index := by
  rw [entries, run_bind, run_bind, run_fieldsIf, run_fieldsIf, run_direct, run_linked, run_pure,
    Extractor.entries]

theorem run_componentValues (e : Extractor) (c : Component) :
    (componentValues e c).run index = e.componentValues index c := by
  rw [componentValues, Extractor.componentValues]
  split
  · exact run_controlValues c
  · rw [run_bind, run_entries, run_pure]

theorem run_selectedValues (e : Extractor) :
    (selectedValues e).run index = e.selectedValues index := by
  simp only [selectedValues, run_bind, run_mapM, run_componentValues, run_pure,
    Extractor.selectedValues, List.flatMap_def]

theorem run_values (e : Extractor) (languages : LanguageTable) :
    (values e languages).run index = e.values index languages := by
  rw [values, run_bind, run_selectedValues, Extractor.values]
  cases e.derivation with
  | none => rfl
  | some d => exact run_apply d languages _

/-! ## Their questions -/

section questions

variable {e : Extractor} {i : Interest} {c : Component}

theorem asksOnly_controlValues (h : i.control) : (controlValues c).AsksOnly i.Covers := by
  have hcontrol : (control c.tag).AsksOnly i.Covers := .control h
  refine hcontrol.bind fun found => ?_
  cases found with
  | none => exact .pure _
  | some entry => cases c.offset <;> exact .pure _

theorem asksOnly_fieldsIf {P : Query → Prop} {fields : Inquiry (List PlacedField)}
    (h : fields.AsksOnly P) (counts : Bool) : (fieldsIf counts fields).AsksOnly P := by
  cases counts with
  | true => exact h
  | false => exact .pure []

theorem asksOnly_entries (h : i.contains c.tag) : (entries e c).AsksOnly i.Covers := by
  have hdirect : (direct c.tag).AsksOnly i.Covers := .direct h
  have hlinked : (linked c.tag).AsksOnly i.Covers := .linked h
  refine (asksOnly_fieldsIf hdirect _).bind fun directFields => ?_
  exact (asksOnly_fieldsIf hlinked _).bind fun linkedFields => .pure (directFields ++ linkedFields)

variable (h : i.Includes (Extractor.interestOf [e]))
include h

theorem asksOnly_componentValues (hc : c ∈ e.components) :
    (componentValues e c).AsksOnly i.Covers := by
  rw [componentValues]
  split
  · next hcontrol =>
    exact asksOnly_controlValues (Extractor.control_of_mem_components h hc hcontrol)
  · next hdata =>
    have htag := Extractor.contains_of_mem_components h hc hdata
    exact (asksOnly_entries htag).bind fun _ => .pure _

/-- An interest that includes what an extractor declares covers all that it asks. -/
theorem asksOnly_values (languages : LanguageTable) : (values e languages).AsksOnly i.Covers := by
  have hselected : (selectedValues e).AsksOnly i.Covers :=
    (AsksOnly.mapM fun c hc => asksOnly_componentValues h hc).bind fun _ => .pure _
  refine hselected.bind fun selected => ?_
  split
  · next d hd => exact asksOnly_apply (Extractor.supplied_of_includes h hd) languages selected
  · exact .pure selected

end questions

end Inquiry

/-! ## The collected interest -/

namespace Extractor

theorem values_congr {e : Extractor} {i : Interest} (h : i.Includes (interestOf [e]))
    {a b : Index} (hab : ∀ q, i.Covers q → q.answer a = q.answer b) (languages : LanguageTable) :
    e.values a languages = e.values b languages := by
  have hasked := Inquiry.asksOnly_values h languages
  rw [← Inquiry.run_values, ← Inquiry.run_values]
  exact (Inquiry.run_congr fun q hq => hab q (hasked.of_mem_asked hq)).1

/-- **The interest of a batch is exact and has no order.** The collected tags are that of alternate
scripts, those of the components for data fields and those that the derivations declare; control
fields belong to it just if a component or the date of publication reads one. Extractors in another
order, or some of them repeated, have the same interest and so the same index of every record. And
all that a run of one of them asks of an index, whatever the index holds, is covered: every tag that
it looks up among the data fields is contained, and nothing else in an index influences its
values. -/
theorem interestOf_exact (es : List Extractor) :
    (∀ t, (interestOf es).contains t ↔
      t = "880" ∨
      (∃ e ∈ es, ∃ c ∈ e.components, ¬ "00".toList <+: c.tag.toList ∧ c.tag = t) ∨
      ∃ e ∈ es, ∃ d, e.derivation = some d ∧ t ∈ d.tags) ∧
    ((interestOf es).control ↔
      (∃ e ∈ es, ∃ c ∈ e.components, "00".toList <+: c.tag.toList) ∨
      ∃ e ∈ es, e.derivation = some .publicationDate) ∧
    (∀ fs, (∀ e, e ∈ fs ↔ e ∈ es) →
      (interestOf fs).Same (interestOf es) ∧
      ∀ record, Index.build record (interestOf fs) = Index.build record (interestOf es)) ∧
    ∀ e ∈ es, ∀ languages,
      (∀ index, (Inquiry.values e languages).run index = e.values index languages ∧
        ∀ q ∈ (Inquiry.values e languages).asked index, (interestOf es).Covers q) ∧
      ∀ a b, (∀ q, (interestOf es).Covers q → q.answer a = q.answer b) →
        e.values a languages = e.values b languages := by
  refine ⟨fun t => ?_, ?_, fun fs h => ?_, fun e he languages => ⟨fun index => ?_, ?_⟩⟩
  · rw [contains_interestOf, or_comm]
    refine or_congr Iff.rfl ?_
    simp only [mem_dataTags_iff, Component.isControl_iff, and_or_left, exists_or]
  · rw [control_interestOf, List.any_eq_true]
    simp only [needsControl_iff, Component.isControl_iff, and_or_left, exists_or]
  · have hsame := same_interestOf h
    exact ⟨hsame, fun record => Index.build_congr hsame record⟩
  · have hasked := Inquiry.asksOnly_values (includes_interestOf he) languages
    exact ⟨Inquiry.run_values e languages, fun q hq => hasked.of_mem_asked hq⟩
  · exact fun a b hab => values_congr (includes_interestOf he) hab languages

theorem interestOf_exact_repeated :
    let dates := Batch.derived "dates" .publicationDate
    let keys := Batch.derived "keys" .sortTitle
    let interest := interestOf [titlesAndNotes, dates, keys]
    let index := Index.build linkedRecord interest
    (∀ e, e ∈ [keys, dates, titlesAndNotes, dates] ↔ e ∈ [titlesAndNotes, dates, keys]) ∧
    (interestOf [keys, dates, titlesAndNotes, dates]).Same interest ∧
    interest.contains "260" ∧ ¬ interest.contains "001" ∧ interest.control ∧
    (.linked "500" ∈ (Inquiry.values titlesAndNotes .standard).asked index ∧
      interest.Covers (.linked "500")) ∧
    .direct "245" ∈ (Inquiry.values keys .standard).asked index ∧
      interest.Covers (.direct "245") := by
  intro dates keys interest index
  obtain ⟨hcontains, hcontrol, hsame, hruns⟩ := interestOf_exact [titlesAndNotes, dates, keys]
  have hmem : ∀ e,
      e ∈ [keys, dates, titlesAndNotes, dates] ↔ e ∈ [titlesAndNotes, dates, keys] := by
    intro e
    simp only [List.mem_cons, List.not_mem_nil, or_false]
    tauto
  have hstatements : interest.contains "260" :=
    (hcontains _).mpr (.inr (.inr ⟨dates, by simp, _, rfl, by decide⟩))
  have hdates : interest.control := hcontrol.mpr (.inr ⟨dates, by simp, rfl⟩)
  have hnotes : .linked "500" ∈ (Inquiry.values titlesAndNotes .standard).asked index :=
    .tail _ (.head _)
  have hkeys : .direct "245" ∈ (Inquiry.values keys .standard).asked index := .head _
  refine ⟨hmem, (hsame _ hmem).1, hstatements, ?_, hdates, ⟨hnotes, ?_⟩, hkeys, ?_⟩
  · rw [hcontains]
    decide
  · exact ((hruns titlesAndNotes (by simp) .standard).1 index).2 _ hnotes
  · exact ((hruns keys (by simp) .standard).1 index).2 _ hkeys

end Extractor

end MarcHarvest
