import MarcHarvest.Proofs.Derivation.Appending
import MarcHarvest.Proofs.Derivation.HeadingOrder

/-!
# Headings of a record

The subject headings of a record are those of its fields with a tag from 600 to 699, in the order of the
record whatever the tags (`recordHeadings`). The index keeps such fields in one bucket for each tag, but
with their places, so merging the buckets gives the order back. To a list of values the derivation adds
each heading that is not there yet, in this order and once (`apply_subjectHeadings_once`).
-/

namespace MarcHarvest.SubjectHeading

open Index

variable {i : Interest}

theorem mem_tags_iff {t : String} : t ∈ tags ↔ isSubject t :=
  ⟨isSubject_of_mem_tags, mem_tags_of_isSubject⟩

/-- Whether a field is filed under its own tag, from 600 to 699. -/
def IsSubjectField (f : Field) : Prop := f.tag ≠ alternateTag ∧ f.tag ∈ tags

instance (f : Field) : Decidable (IsSubjectField f) := inferInstanceAs (Decidable (_ ∧ _))

/-- The headings of the subject fields of a record, in the order of the record. -/
def recordHeadings (r : RecordView) : List String :=
  (r.fields.filter IsSubjectField).filterMap heading?

theorem isDirectWhere_isSubject (f : Field) :
    isDirectWhere isSubject f = decide (IsSubjectField f) := by
  rw [Bool.eq_iff_iff, decide_eq_true_eq, IsSubjectField, mem_tags_iff, isDirectWhere,
    Bool.and_eq_true, Field.isAlternate]
  simp

theorem mem_recordHeadings {r : RecordView} {h : String} :
    h ∈ recordHeadings r ↔ ∃ f ∈ r.fields, IsSubjectField f ∧ heading? f = some h := by
  simp [recordHeadings, and_assoc]

theorem apply_subjectHeadings_eq (hi : Derivation.subjectHeadings.Supplied i) (r : RecordView)
    (languages : LanguageTable) (values : List String) :
    Derivation.subjectHeadings.apply (build r i) languages values =
      addAllDistinct values (recordHeadings r) := by
  have hfields : ((build r i).directFieldsWhere isSubject).map PlacedField.field =
      r.fields.filter IsSubjectField := by
    rw [map_field_directFieldsWhere_build fun t ht => hi.1 t (mem_tags_of_isSubject ht)]
    exact List.filter_congr fun f _ => isDirectWhere_isSubject f
  rw [Derivation.apply, addHeadings, recordHeadings, ← hfields, List.filterMap_map]
  rfl

/-- **Every heading once, in the order of the record.** On every index that holds what it reads, the
derivation keeps the values that it is given, and appends the headings of the record that are not among
them in the order in which they first come. All headings are in the result, and to it nothing is
added. -/
theorem apply_subjectHeadings_once (hi : Derivation.subjectHeadings.Supplied i) (r : RecordView)
    (languages : LanguageTable) (values : List String) :
    let result := Derivation.subjectHeadings.apply (build r i) languages values
    (∃ appended, result = values ++ appended ∧ appended.Nodup ∧
      (∀ h, h ∈ appended ↔ h ∈ recordHeadings r ∧ h ∉ values) ∧
      appended.Pairwise fun g h => (recordHeadings r).idxOf g < (recordHeadings r).idxOf h) ∧
    (∀ f ∈ r.fields, IsSubjectField f → ∀ h ∈ heading? f, h ∈ result) ∧
    Derivation.subjectHeadings.apply (build r i) languages result = result := by
  dsimp only
  rw [apply_subjectHeadings_eq hi, apply_subjectHeadings_eq hi]
  obtain ⟨appended, heq, hmem, horder⟩ := exists_addAllDistinct_eq_append values (recordHeadings r)
  have hnodup : appended.Nodup := horder.imp fun hlt hsame => by
    rw [hsame] at hlt
    exact Nat.lt_irrefl _ hlt
  refine ⟨⟨appended, heq, hnodup, hmem, horder⟩, ?_, ?_⟩
  · intro f hf hsubject h hh
    exact mem_addAllDistinct.mpr (Or.inr (mem_recordHeadings.mpr ⟨f, hf, hsubject, hh⟩))
  · exact addAllDistinct_of_subset fun h hh => mem_addAllDistinct.mpr (Or.inr hh)

/-- Headings of three tags, one of them twice, and an alternate script of one. -/
def localSubjects : RecordView where
  control := []
  fields := [
    ⟨"690", ' ', '4', [⟨'a', "Yale authors"⟩, ⟨'y', "20th century."⟩]⟩,
    ⟨"651", ' ', '0', [⟨'a', "Japan"⟩, ⟨'x', "Religion."⟩]⟩,
    ⟨"880", ' ', '0', [⟨'6', "651-01"⟩, ⟨'a', "Nihon"⟩]⟩,
    ⟨"650", ' ', '0', [⟨'a', "Shrines"⟩]⟩,
    ⟨"651", ' ', '7', [⟨'a', "Japan"⟩, ⟨'x', "Religion"⟩]⟩]

theorem apply_subjectHeadings_once_localSubjects :
    let index := build localSubjects (Derivation.subjectHeadings.addInterest .least)
    let result := ["Shrines", "Shrines", "Yale authors > 20th century", "Japan > Religion"]
    Derivation.subjectHeadings.Supplied (Derivation.subjectHeadings.addInterest .least) ∧
    Derivation.subjectHeadings.apply index .standard ["Shrines", "Shrines"] = result ∧
    Derivation.subjectHeadings.apply index .standard result = result := by
  have hi := Derivation.supplied_addInterest .subjectHeadings .least
  have honce := apply_subjectHeadings_once hi localSubjects .standard ["Shrines", "Shrines"]
  have hresult : Derivation.subjectHeadings.apply
      (build localSubjects (Derivation.subjectHeadings.addInterest .least)) .standard
        ["Shrines", "Shrines"] =
      ["Shrines", "Shrines", "Yale authors > 20th century", "Japan > Religion"] := by
    rw [apply_subjectHeadings_eq hi, recordHeadings, funext heading?_eq_headingByPass?]
    decide
  exact ⟨hi, hresult, hresult ▸ honce.2.2⟩

end MarcHarvest.SubjectHeading
