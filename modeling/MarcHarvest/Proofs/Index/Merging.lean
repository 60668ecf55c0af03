import MarcHarvest.Proofs.Index.Invariant

/-!
# Merging buckets

The direct fields of several tags stand in several buckets, and a map goes through its buckets in an
order that says nothing about the record. Every field carries its number, though, and no number
comes twice. So the fields have only one ascending arrangement, and sorting brings them back to the
order of the record, in whichever order the buckets come (`directFieldsWhere_restores_order`).
-/

namespace MarcHarvest.Index

/-- The fields of the buckets whose tag satisfies `p`, in the order of their places. -/
def mergeWhere (p : String → Bool) (buckets : List (String × Array PlacedField)) :
    List PlacedField :=
  ((buckets.filter fun b => p b.1).flatMap fun b => b.2.toList).mergeSort
    fun a b => a.origin.le b.origin

theorem directFieldsWhere_eq_mergeWhere (index : Index) (p : String → Bool) :
    index.directFieldsWhere p = mergeWhere p index.direct.toList := rfl

/-- An order in which a map can be gone through: every key once, with what the map has for it. -/
structure IsListing (buckets : Std.HashMap String (Array PlacedField))
    (l : List (String × Array PlacedField)) : Prop where
  nodup_keys : (l.map Prod.fst).Nodup
  mem_iff : ∀ t b, (t, b) ∈ l ↔ buckets[t]? = some b

theorem IsListing.perm {buckets : Std.HashMap String (Array PlacedField)}
    {l l' : List (String × Array PlacedField)} (h : IsListing buckets l)
    (h' : IsListing buckets l') : l.Perm l' := by
  rw [List.perm_ext_iff_of_nodup (h.nodup_keys.of_map _) (h'.nodup_keys.of_map _)]
  rintro ⟨t, b⟩
  rw [h.mem_iff, h'.mem_iff]

theorem IsListing.of_perm {buckets : Std.HashMap String (Array PlacedField)}
    {l l' : List (String × Array PlacedField)} (h : IsListing buckets l) (hl : l.Perm l') :
    IsListing buckets l' where
  nodup_keys := (hl.map _).nodup h.nodup_keys
  mem_iff t b := hl.mem_iff.symm.trans (h.mem_iff t b)

theorem isListing_toList (buckets : Std.HashMap String (Array PlacedField)) :
    IsListing buckets buckets.toList where
  nodup_keys := by
    rw [List.Nodup, List.pairwise_map]
    exact Std.HashMap.distinct_keys_toList.imp fun hab => by simpa using hab
  mem_iff _ _ := Std.HashMap.mem_toList_iff_getElem?_eq_some

variable {record : RecordView} {interest : Interest}

/-- In whichever order the buckets come, merging them gives the placed fields in record order. -/
theorem mergeWhere_build {l : List (String × Array PlacedField)}
    (h : IsListing (build record interest).direct l) (p : String → Bool) :
    mergeWhere p l = (placedFields record interest).filter fun e => isDirectWhere p e.field := by
  have hperm := h.perm (isListing_toList _)
  have hfields := (hperm.filter fun b => p b.1).flatMap_right fun b => b.2.toList
  exact mergeSort_eq_filter_placedFields (hfields.trans (perm_direct_build record interest p))

theorem mem_directFieldsWhere_build {p : String → Bool} {e : PlacedField} :
    e ∈ (build record interest).directFieldsWhere p ↔
      ∃ k f, (numbered record interest)[k]? = some f ∧ f.tag ≠ alternateTag ∧ p f.tag ∧
        e = ⟨.data k, f⟩ := by
  rw [directFieldsWhere_build, List.mem_filter, mem_placedFields_iff]
  constructor
  · rintro ⟨⟨k, f, hk, rfl⟩, hdirect⟩
    obtain ⟨ha, hp⟩ : f.tag ≠ alternateTag ∧ p f.tag := by
      simpa [isDirectWhere, Field.isAlternate] using hdirect
    exact ⟨k, f, hk, ha, hp, rfl⟩
  · rintro ⟨k, f, hk, ha, hp, rfl⟩
    exact ⟨⟨k, f, hk, rfl⟩, by simp [isDirectWhere, Field.isAlternate, ha, hp]⟩

/-- **Merging buckets restores the order of the record.** A look-up of several tags finds the fields
of the record that are of interest, in no alternate script and accepted, one after the other as they
stand there. With them it finds their numbers, which ascend strictly, so that no field comes twice;
and the order in which the map of the buckets is gone through does not matter. -/
theorem directFieldsWhere_restores_order (record : RecordView) (interest : Interest)
    (p : String → Bool) :
    let index := build record interest
    let found := index.directFieldsWhere p
    found.map PlacedField.field =
      record.fields.filter (fun f => f.tag ≠ alternateTag ∧ interest.contains f.tag ∧ p f.tag) ∧
    (∀ e, e ∈ found ↔ ∃ k f, (numbered record interest)[k]? = some f ∧ f.tag ≠ alternateTag ∧
      p f.tag ∧ e = ⟨.data k, f⟩) ∧
    found.Pairwise (fun a b => a.origin.Before b.origin) ∧
    ∀ l, IsListing index.direct l → mergeWhere p l = found := by
  intro index found
  have hfound : found =
      (placedFields record interest).filter fun e => isDirectWhere p e.field :=
    directFieldsWhere_build record interest p
  refine ⟨?_, fun e => mem_directFieldsWhere_build, ?_, fun l hl => ?_⟩
  · rw [hfound, map_field_filter_placedFields_of_interest]
    refine List.filter_congr fun f _ => ?_
    rw [Bool.eq_iff_iff]
    simp [isDirectWhere, Field.isAlternate, and_assoc, and_left_comm, and_comm]
  · rw [hfound]
    exact (pairwise_place ..).filter _
  · rw [mergeWhere_build hl, hfound]

/-- Subjects of two tags, one also in an alternate script, and a field of no interest. -/
def placesAndTopics : RecordView where
  control := []
  fields := [
    ⟨"651", ' ', '0', [⟨'a', "Place"⟩]⟩,
    ⟨"880", ' ', '0', [⟨'6', "651-01"⟩, ⟨'a', "linked place"⟩]⟩,
    ⟨"650", ' ', '0', [⟨'a', "Topic"⟩]⟩,
    ⟨"690", ' ', ' ', [⟨'a', "local"⟩]⟩,
    ⟨"651", ' ', '0', [⟨'a', "Place two"⟩]⟩]

theorem directFieldsWhere_restores_order_placesAndTopics :
    let interest := (Interest.least.addTag "650").addTag "651"
    let index := build placesAndTopics interest
    let p := fun t : String => t.toList.head? == some '6'
    IsListing index.direct index.direct.toList.reverse ∧
    (mergeWhere p index.direct.toList.reverse).map PlacedField.field =
      [⟨"651", ' ', '0', [⟨'a', "Place"⟩]⟩, ⟨"650", ' ', '0', [⟨'a', "Topic"⟩]⟩,
        ⟨"651", ' ', '0', [⟨'a', "Place two"⟩]⟩] := by
  intro interest index p
  obtain ⟨hfields, -, -, hmerge⟩ := directFieldsWhere_restores_order placesAndTopics interest p
  have hlisting : IsListing index.direct index.direct.toList.reverse :=
    (isListing_toList _).of_perm (List.reverse_perm _).symm
  have hcontains : ∀ t, interest.contains t ↔ t = "651" ∨ t = "650" ∨ t = alternateTag := by
    intro t
    simp [interest, eq_comm (b := t)]
  refine ⟨hlisting, ?_⟩
  rw [hmerge _ hlisting, hfields]
  simp only [hcontains]
  decide

end MarcHarvest.Index
