import MarcHarvest.Derivation.Basic
import MarcHarvest.Proofs.Index.Contents
import MarcHarvest.Proofs.Text.Decimal

/-!
# What derivations read

A derivation takes the fields of its tags and the payloads of control fields from an index, and
nothing else: neither the places of fields nor fields of other tags play a part. So two indexes of
one record that both hold what it needs give it the same values (`apply_build_eq`).
-/

namespace MarcHarvest

theorem findSome?_congr {α β : Type} {f g : α → Option β} {l : List α}
    (h : ∀ a ∈ l, f a = g a) : l.findSome? f = l.findSome? g := by
  induction l with
  | nil => rfl
  | cons a rest ih =>
    rw [List.findSome?_cons, List.findSome?_cons, h a (List.mem_cons_self ..),
      ih fun b hb => h b (List.mem_cons_of_mem _ hb)]

variable {a b : Index}

/-! ## Sort keys -/

namespace SortKey

theorem firstTitle?_directFields (text : Field → String) (index : Index) (t : String) :
    firstTitle? text (index.directFields t) =
      ((index.fieldsOf t).find? fun f => !(text f).isEmpty).map fun f =>
        withoutArticle f (text f) := by
  rw [firstTitle?, Index.fieldsOf, List.find?_map, Option.map_map]
  rfl

theorem title?_congr (h : a.fieldsOf titleTag = b.fieldsOf titleTag) : title? a = title? b := by
  unfold title?
  simp only [firstTitle?_directFields]
  rw [h]

theorem authorName_eq (index : Index) :
    authorName index = (authorTags.findSome? fun t =>
      ((index.fieldsOf t).flatMap Field.alphabeticValues).find? fun v => !v.isEmpty).getD "" := by
  simp only [authorName, Index.fieldsOf, List.flatMap_map]

theorem authorName_congr (h : ∀ t ∈ authorTags, a.fieldsOf t = b.fieldsOf t) :
    authorName a = authorName b := by
  rw [authorName_eq, authorName_eq]
  congr 1
  refine findSome?_congr fun t ht => ?_
  rw [h t ht]

theorem authorTitles_eq (index : Index) :
    authorTitles index = (authorTitleTags.flatMap fun t => (index.fieldsOf t).map fun f =>
      withoutArticle f (joinWords f.values)).filter fun t => !t.isEmpty := by
  simp only [authorTitles, Index.fieldsOf, List.map_map, Function.comp_def]

theorem authorTitles_congr (h : ∀ t ∈ authorTitleTags, a.fieldsOf t = b.fieldsOf t) :
    authorTitles a = authorTitles b := by
  rw [authorTitles_eq, authorTitles_eq]
  congr 1
  refine List.flatMap_congr fun t ht => ?_
  rw [h t ht]

theorem author?_congr (h : ∀ t ∈ authorTags ++ authorTitleTags, a.fieldsOf t = b.fieldsOf t) :
    author? a = author? b := by
  have hname := authorName_congr fun t ht => h t (List.mem_append_left _ ht)
  have htitles := authorTitles_congr fun t ht => h t (List.mem_append_right _ ht)
  unfold author?
  rw [hname, htitles]

end SortKey

/-! ## Publication dates -/

namespace PublicationDate

theorem statements_eq (index : Index) (t : String) :
    statements index t =
      ((index.fieldsOf t).filterMap fun f => f.value? 'c').filter fun v => !v.isEmpty := by
  rw [statements, Index.fieldsOf, List.filterMap_map]
  rfl

theorem described?_congr (h : ∀ t ∈ statementTags, a.fieldsOf t = b.fieldsOf t)
    (type : Option Char) : described? a type = described? b type := by
  unfold described?
  refine findSome?_congr fun t ht => ?_
  rw [statements_eq, statements_eq, h t ht]

theorem payload_congr
    (h : (a.controlField? codedTag).map PlacedControl.value =
      (b.controlField? codedTag).map PlacedControl.value) :
    ((a.controlField? codedTag).map fun c => c.value.toList) =
      (b.controlField? codedTag).map fun c => c.value.toList := by
  have htoList := congrArg (Option.map String.toList) h
  rwa [Option.map_map, Option.map_map] at htoList

theorem publicationDate?_congr
    (hcontrol : (a.controlField? codedTag).map PlacedControl.value =
      (b.controlField? codedTag).map PlacedControl.value)
    (h : ∀ t ∈ statementTags, a.fieldsOf t = b.fieldsOf t) :
    publicationDate? a = publicationDate? b := by
  unfold publicationDate?
  simp only
  rw [payload_congr hcontrol, described?_congr h]

end PublicationDate

/-! ## Subject headings -/

namespace SubjectHeading

theorem repr_subject : ∀ m, m < 10 → ∀ n, n < 10 →
    Nat.repr (600 + (10 * m + n)) = String.ofList ['6', Nat.digitChar m, Nat.digitChar n] := by
  decide

theorem exists_digits_of_isSubject {t : String} (ht : isSubject t) :
    ∃ m n, m < 10 ∧ n < 10 ∧ t = String.ofList ['6', Nat.digitChar m, Nat.digitChar n] := by
  unfold isSubject at ht
  split at ht
  · next a b hlist =>
    rw [Bool.and_eq_true] at ht
    obtain ⟨m, hm, rfl⟩ := exists_digitChar_eq ht.1
    obtain ⟨n, hn, rfl⟩ := exists_digitChar_eq ht.2
    exact ⟨m, n, hm, hn, by rw [← hlist, String.ofList_toList]⟩
  · exact absurd ht Bool.false_ne_true

theorem mem_tags_of_isSubject {t : String} (ht : isSubject t) : t ∈ tags := by
  obtain ⟨m, n, hm, hn, rfl⟩ := exists_digits_of_isSubject ht
  refine List.mem_map.mpr ⟨10 * m + n, List.mem_range.mpr (by omega), ?_⟩
  exact repr_subject m hm n hn

theorem isSubject_of_mem_tags {t : String} (ht : t ∈ tags) : isSubject t := by
  obtain ⟨n, hn, rfl⟩ := List.mem_map.mp ht
  have hsubject : ∀ m, m < 10 → ∀ n, n < 10 →
      isSubject (String.ofList ['6', Nat.digitChar m, Nat.digitChar n]) := by decide
  have hlt := List.mem_range.mp hn
  have hsplit : n = 10 * (n / 10) + n % 10 := by omega
  rw [hsplit, repr_subject _ (by omega) _ (by omega)]
  exact hsubject _ (by omega) _ (by omega)

theorem addHeadings_congr
    (h : (a.directFieldsWhere isSubject).map PlacedField.field =
      (b.directFieldsWhere isSubject).map PlacedField.field) (values : List String) :
    addHeadings a values = addHeadings b values := by
  have hheadings : ∀ index : Index,
      ((index.directFieldsWhere isSubject).filterMap fun e => heading? e.field) =
        ((index.directFieldsWhere isSubject).map PlacedField.field).filterMap heading? := by
    intro index
    rw [List.filterMap_map]
    rfl
  rw [addHeadings, addHeadings, hheadings, hheadings, h]

end SubjectHeading

/-! ## All derivations -/

namespace Derivation

open Index

/-- Whether an interest includes what a derivation reads. -/
def Supplied (d : Derivation) (i : Interest) : Prop :=
  (∀ t ∈ d.tags, i.contains t) ∧ (d.needsControl → i.control)

theorem contains_addInterest (d : Derivation) (i : Interest) (t : String) :
    (d.addInterest i).contains t ↔ t ∈ d.tags ∨ i.contains t := by
  unfold addInterest
  simp only
  split <;> simp

theorem control_addInterest (d : Derivation) (i : Interest) :
    (d.addInterest i).control = (d.needsControl || i.control) := by
  unfold addInterest
  by_cases h : d.needsControl <;> simp [h]

theorem supplied_addInterest (d : Derivation) (i : Interest) : d.Supplied (d.addInterest i) := by
  refine ⟨fun t ht => (contains_addInterest d i t).mpr (Or.inl ht), fun hcontrol => ?_⟩
  rw [control_addInterest, hcontrol, Bool.true_or]

theorem controlField?_build_eq (record : RecordView) {i j : Interest} (hi : i.control)
    (hj : j.control) (t : String) :
    (build record i).controlField? t = (build record j).controlField? t := by
  rw [controlField?_build hi, controlField?_build hj]

theorem fieldsOf_build_eq (record : RecordView) {i j : Interest} {ts : List String}
    (hi : ∀ t ∈ ts, i.contains t) (hj : ∀ t ∈ ts, j.contains t) :
    ∀ t ∈ ts, (build record i).fieldsOf t = (build record j).fieldsOf t := by
  intro t ht
  rw [fieldsOf_build (hi t ht), fieldsOf_build (hj t ht)]

/-- A derivation gives the same values on every index of a record that holds what it reads. -/
theorem apply_build_eq {d : Derivation} {i j : Interest} (hi : d.Supplied i) (hj : d.Supplied j)
    (record : RecordView) (languages : LanguageTable) (values : List String) :
    d.apply (build record i) languages values = d.apply (build record j) languages values := by
  have hfields := fieldsOf_build_eq record hi.1 hj.1
  cases d with
  | sortTitle =>
    rw [apply, apply, SortKey.title?_congr (hfields _ (List.mem_singleton_self _))]
  | sortAuthor =>
    rw [apply, apply, SortKey.author?_congr hfields]
  | publicationDate =>
    have hcontrol := controlField?_build_eq record (hi.2 rfl) (hj.2 rfl)
      PublicationDate.codedTag
    rw [apply, apply, PublicationDate.publicationDate?_congr (congrArg _ hcontrol) hfields]
  | languageNames => rfl
  | subjectHeadings =>
    have hsubjects : ∀ i : Interest, Derivation.subjectHeadings.Supplied i →
        ((build record i).directFieldsWhere SubjectHeading.isSubject).map PlacedField.field =
          record.fields.filter (isDirectWhere SubjectHeading.isSubject) := fun i hi =>
      map_field_directFieldsWhere_build fun t ht =>
        hi.1 t (SubjectHeading.mem_tags_of_isSubject ht)
    rw [apply, apply, SubjectHeading.addHeadings_congr ((hsubjects i hi).trans (hsubjects j hj).symm)]

end Derivation

end MarcHarvest
