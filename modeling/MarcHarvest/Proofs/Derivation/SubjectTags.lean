import MarcHarvest.Proofs.Derivation.RecordHeadings
import MarcHarvest.Proofs.Extractor.Interest
import MarcHarvest.Proofs.Safety.Index

/-!
# Tags of subjects

The headings of a record come from all fields whose tag passes a test of its bytes, while the index is
told beforehand which tags it has to hold, as a list of numbers. Both say the same of every text
(`isSubject_iff_declared`). So an index that holds what the derivation declares lacks no field that the
test would pass in a larger one, and the headings do not depend on what else is in the index.
-/

namespace MarcHarvest.SubjectHeading

open Index

def declaredInterest : Interest := Derivation.subjectHeadings.addInterest .least

/-- The fields of an index from which headings are read, in record order. -/
def subjectFields (index : Index) : List Field :=
  (index.directFieldsWhere isSubject).map PlacedField.field

theorem apply_eq_of_subjectFields (index : Index) (languages : LanguageTable)
    (values : List String) :
    Derivation.subjectHeadings.apply index languages values =
      addAllDistinct values ((subjectFields index).filterMap heading?) := by
  rw [Derivation.apply, addHeadings, subjectFields, List.filterMap_map]
  rfl

variable {i : Interest}

theorem subjectFields_build (record : RecordView) (i : Interest) :
    subjectFields (build record i) =
      record.fields.filter fun f => isDirectWhere isSubject f && i.contains f.tag := by
  rw [subjectFields, directFieldsWhere_build, map_field_filter_placedFields_of_interest]

theorem subjectFields_build_of_supplied (hi : Derivation.subjectHeadings.Supplied i)
    (record : RecordView) :
    subjectFields (build record i) = record.fields.filter (isDirectWhere isSubject) :=
  map_field_directFieldsWhere_build fun t ht => hi.1 t (mem_tags_of_isSubject ht)

theorem supplied_declaredInterest : Derivation.subjectHeadings.Supplied declaredInterest :=
  Derivation.supplied_addInterest ..

theorem supplied_of_includes (hi : i.Includes declaredInterest) :
    Derivation.subjectHeadings.Supplied i :=
  ⟨fun t ht => hi.1 t (supplied_declaredInterest.1 t ht),
    fun h => hi.2 (supplied_declaredInterest.2 h)⟩

/-- **The test of subject tags and the declared tags agree.** A text passes the test, byte by byte and
without a fault, just if it is one of the declared tags. So an index with the declared interest holds
every field that the derivation selects from any other index of the record, and the same fields as a
larger one, from which it then derives the same headings. -/
theorem isSubject_iff_declared :
    (∀ t : String, (isSubject t ↔ t ∈ tags) ∧ Checked.isSubject t = .ok (decide (t ∈ tags))) ∧
    (∀ record i, (subjectFields (build record i)).Sublist
      (subjectFields (build record declaredInterest))) ∧
    ∀ record i, i.Includes declaredInterest →
      subjectFields (build record i) = subjectFields (build record declaredInterest) ∧
      ∀ languages values,
        Derivation.subjectHeadings.apply (build record i) languages values =
          Derivation.subjectHeadings.apply (build record declaredInterest) languages values := by
  refine ⟨fun t => ⟨mem_tags_iff.symm, ?_⟩, fun record i => ?_, fun record i hi => ?_⟩
  · rw [Checked.isSubject_eq_ok]
    congr 1
    rw [Bool.eq_iff_iff, decide_eq_true_eq, mem_tags_iff]
  · rw [subjectFields_build_of_supplied supplied_declaredInterest, subjectFields_build,
      ← List.filter_filter]
    exact List.filter_sublist.filter _
  · have hfields : subjectFields (build record i) =
        subjectFields (build record declaredInterest) := by
      rw [subjectFields_build_of_supplied (supplied_of_includes hi),
        subjectFields_build_of_supplied supplied_declaredInterest]
    refine ⟨hfields, fun languages values => ?_⟩
    rw [apply_eq_of_subjectFields, apply_eq_of_subjectFields, hfields]

theorem isSubject_iff_declared_localSubjects :
    let i := (declaredInterest.addTag "245").requireControl
    i.Includes declaredInterest ∧
    subjectFields (build localSubjects i) = localSubjects.fields.eraseIdx 2 ∧
    subjectFields (build localSubjects declaredInterest) = localSubjects.fields.eraseIdx 2 := by
  intro i
  have hi : i.Includes declaredInterest :=
    ⟨fun t ht => by simp [i, ht], fun _ => rfl⟩
  have hdeclared : subjectFields (build localSubjects declaredInterest) =
      localSubjects.fields.eraseIdx 2 := by
    rw [subjectFields_build_of_supplied supplied_declaredInterest]
    decide
  exact ⟨hi, (isSubject_iff_declared.2.2 localSubjects i hi).1.trans hdeclared, hdeclared⟩

end MarcHarvest.SubjectHeading
