import MarcHarvest.Proofs.Extractor.Interest
import MarcHarvest.Proofs.Index.Contents

/-!
# Extraction as a scan

What an extractor selects can be read off the record in one pass, without an index: first the
control fields that count, then every data field in record order, and for each field the components
in their order (`scan`). An extractor that runs on an index with everything it needs finds the same
values in the same order (`selectedValues_build`).

The values of an extractor carry the origins of their fields, so a stable sort groups them by field
and leaves the components of one field as they are. What remains is to see that the values with one
origin are those that the scan takes from that field.
-/

namespace MarcHarvest

open Index

/-! ## The scan -/

/-- The texts that a component takes from a control field: the payload, or the characters at its
offset. -/
def Component.payloadValues (c : Component) (payload : String) : List String :=
  match c.offset with
  | none => [payload]
  | some offset => (offset.select? payload.toList).toList.map String.ofList

theorem ScriptInclusion.includesDirect_iff (s : ScriptInclusion) : s.includesDirect ↔ s ≠ .only := by
  cases s <;> simp [includesDirect]

theorem ScriptInclusion.includesLinked_iff (s : ScriptInclusion) : s.includesLinked ↔ s ≠ .none := by
  cases s <;> simp [includesLinked]

namespace Extractor

/-- Whether a field counts for a component: a field in an alternate script if it links to the tag of
the component, any other field if it has the tag. -/
def Counts (e : Extractor) (c : Component) (f : Field) : Prop :=
  if f.tag = alternateTag then e.scripts ≠ .none ∧ f.linkedTag? = some c.tag
  else e.scripts ≠ .only ∧ f.tag = c.tag

instance (e : Extractor) (c : Component) (f : Field) : Decidable (e.Counts c f) := by
  unfold Counts; infer_instance

theorem counts_of_alternate {e : Extractor} {c : Component} {f : Field}
    (hf : f.tag = alternateTag) :
    e.Counts c f ↔ e.scripts ≠ .none ∧ f.linkedTag? = some c.tag := by
  rw [Counts, if_pos hf]

theorem counts_of_not_alternate {e : Extractor} {c : Component} {f : Field}
    (hf : f.tag ≠ alternateTag) : e.Counts c f ↔ e.scripts ≠ .only ∧ f.tag = c.tag := by
  rw [Counts, if_neg hf]

/-- The values that the control components take from one control field. -/
def scanControl (e : Extractor) (control : String × String) : List String :=
  e.components.flatMap fun c =>
    if c.isControl ∧ c.tag = control.1 then c.payloadValues control.2 else []

/-- The values that the other components take from one data field. -/
def scanField (e : Extractor) (f : Field) : List String :=
  e.components.flatMap fun c =>
    if ¬ c.isControl ∧ e.Counts c f ∧ c.acceptsIndicators f then
      (e.select c.selection f).map e.finish
    else []

/-- The values of a record in the order of its fields. Of control fields with the same tag the last
one counts. -/
def scan (e : Extractor) (record : RecordView) : List String :=
  (keepLast record.control).flatMap e.scanControl ++ record.fields.flatMap e.scanField

/-! ## Values with the origins of their fields -/

/-- The values of placed things, each with its origin. -/
def valuesAt {α : Type} (origin : α → Origin) (values : α → List String) (l : List α) :
    List Found :=
  l.flatMap fun a => (values a).map fun v => (origin a, v)

section valuesAt

variable {α : Type} (origin : α → Origin) (values : α → List String)

theorem map_snd_valuesAt_singleton (a : α) :
    (valuesAt origin values [a]).map Prod.snd = values a := by
  simp [valuesAt, Function.comp_def]

theorem mem_map_of_mem_valuesAt {l : List α} {v : Found} (hv : v ∈ valuesAt origin values l) :
    v.1 ∈ l.map origin := by
  obtain ⟨a, ha, hva⟩ := List.mem_flatMap.mp hv
  obtain ⟨t, -, rfl⟩ := List.mem_map.mp hva
  exact List.mem_map_of_mem ha

theorem filter_valuesAt (l : List α) (o : Origin) :
    (valuesAt origin values l).filter (fun v => v.1 = o) =
      valuesAt origin values (l.filter fun a => origin a = o) := by
  induction l with
  | nil => rfl
  | cons a rest ih =>
    have hcons : valuesAt origin values (a :: rest) =
        ((values a).map fun v => (origin a, v)) ++ valuesAt origin values rest := List.flatMap_cons
    rw [hcons, List.filter_append, ih, List.filter_map]
    by_cases h : origin a = o
    · rw [List.filter_cons_of_pos (by simpa using h)]
      simp [valuesAt, h, Function.comp_def]
    · rw [List.filter_cons_of_neg (by simpa using h)]
      simp [h, Function.comp_def]

end valuesAt

/-! ## The values of one component -/

variable {e : Extractor} {record : RecordView} {i : Interest}

theorem controlValues_build (hi : i.control) (c : Component) :
    controlValues c (build record i) =
      valuesAt (fun k => k.2.origin) (fun k => c.payloadValues k.2.value)
        ((placedControls record).filter fun k => k.1 = c.tag) := by
  have hvalues : ∀ k : PlacedControl, (match c.offset with
      | none => [(k.origin, k.value)]
      | some offset =>
        (offset.select? k.value.toList).toList.map fun l => (k.origin, String.ofList l)) =
        (c.payloadValues k.value).map fun v => (k.origin, v) := by
    intro k
    unfold Component.payloadValues
    cases c.offset <;> simp
  unfold controlValues
  rw [controlField?_build hi]
  cases hfound : (placedControls record).find? fun k => k.1 = c.tag with
  | none =>
    have hnone : ((placedControls record).filter fun k => k.1 = c.tag) = [] :=
      List.filter_eq_nil_iff.mpr (List.find?_eq_none.mp hfound)
    rw [hnone]
    rfl
  | some k =>
    have hk : k.1 = c.tag := by simpa using List.find?_some hfound
    have hone := StableSort.filter_eq_singleton Prod.fst (nodup_keys_keepLast _)
      (List.mem_of_find?_eq_some hfound)
    rw [hk] at hone
    have hone' : ((placedControls record).filter fun k => k.1 = c.tag) = [k] := hone
    rw [hone', valuesAt, List.flatMap_singleton]
    exact hvalues k.2

theorem componentValues_of_not_isControl {c : Component} (hc : ¬ c.isControl) (index : Index) :
    e.componentValues index c =
      valuesAt PlacedField.origin (fun p => e.fieldValues c p.field) (e.entries c index) := by
  rw [componentValues, if_neg hc]
  rfl

theorem mem_placedFields_of_mem_entries {c : Component} {p : PlacedField}
    (hp : p ∈ e.entries c (build record i)) : p ∈ placedFields record i := by
  rw [entries, directFields_build, linkedFields_build, List.mem_append] at hp
  rcases hp with hp | hp
  · split at hp
    · exact List.mem_of_mem_filter hp
    · exact absurd hp List.not_mem_nil
  · split at hp
    · exact List.mem_of_mem_filter hp
    · exact absurd hp List.not_mem_nil

theorem isLinked_eq (c : Component) (hc : i.contains c.tag) (f : Field) :
    isLinked i c.tag f = (f.isAlternate && f.linkedTag? == some c.tag) := by
  rw [isLinked, linkedOfInterest?]
  cases hlink : f.linkedTag? with
  | none => rfl
  | some t =>
    by_cases ht : t = c.tag
    · subst ht
      simp [Option.filter, hc]
    · simp only [Option.filter]
      split <;> simp [ht]

/-- Of the fields that a component reads, a placed field is one just if it counts. -/
theorem filter_entries_build {c : Component} (hc : i.contains c.tag) {p : PlacedField}
    (hp : p ∈ placedFields record i) :
    (e.entries c (build record i)).filter (fun q => q.origin = p.origin) =
      if e.Counts c p.field then [p] else [] := by
  have hpart : ∀ (b : Bool) (q : Field → Bool),
      (if b then (placedFields record i).filter fun p => q p.field else []).filter
        (fun q => q.origin = p.origin) = if b ∧ q p.field then [p] else [] := by
    intro b q
    cases b with
    | false => simp
    | true =>
      rw [if_pos rfl, StableSort.filter_filter_eq_singleton PlacedField.origin
        (nodup_origin_placedFields record i) hp]
      simp
  rw [entries, directFields_build, linkedFields_build, List.filter_append, hpart, hpart,
    isLinked_eq c hc]
  unfold isDirect Field.isAlternate
  by_cases ha : p.field.tag = alternateTag
  · simp [counts_of_alternate ha, ha, ScriptInclusion.includesLinked_iff]
  · simp [counts_of_not_alternate ha, ha, ScriptInclusion.includesDirect_iff]

/-! ## The values of one field -/

/-- All values that an extractor finds in an index, before they are sorted. -/
def found (e : Extractor) (index : Index) : List Found :=
  e.components.flatMap (e.componentValues index)

theorem map_filter_found (index : Index) (o : Origin) :
    ((e.found index).filter fun v => v.1 = o).map Prod.snd =
      e.components.flatMap fun c =>
        ((e.componentValues index c).filter fun v => v.1 = o).map Prod.snd := by
  rw [found, List.filter_flatMap, List.map_flatMap]

/-- The values from a data field of interest are those of the scan. -/
theorem map_filter_found_field (hi : i.Includes (interestOf [e])) {p : PlacedField}
    (hp : p ∈ placedFields record i) :
    ((e.found (build record i)).filter fun v => v.1 = p.origin).map Prod.snd =
      e.scanField p.field := by
  obtain ⟨n, hn⟩ := exists_data_of_mem_place hp
  rw [map_filter_found, scanField]
  refine List.flatMap_congr fun c hc => ?_
  by_cases hcontrol : c.isControl
  · rw [if_neg fun h => h.1 hcontrol, componentValues, if_pos hcontrol,
      controlValues_build (control_of_mem_components hi hc hcontrol), filter_valuesAt]
    -- no control field has the place of a data field
    have hnone : (((placedControls record).filter fun k => k.1 = c.tag).filter
        fun k => k.2.origin = p.origin) = [] := by
      rw [List.filter_eq_nil_iff]
      intro k hk
      have hk' := (keepLast_sublist _).subset (List.mem_of_mem_filter hk)
      obtain ⟨m, hm⟩ := exists_control_of_mem_placeControls hk'
      simp [hm, hn]
    rw [hnone]
    rfl
  · rw [componentValues_of_not_isControl hcontrol, filter_valuesAt,
      filter_entries_build (contains_of_mem_components hi hc hcontrol) hp]
    by_cases hcounts : e.Counts c p.field
    · rw [if_pos hcounts, map_snd_valuesAt_singleton, fieldValues]
      have hif : (¬ c.isControl ∧ e.Counts c p.field ∧ c.acceptsIndicators p.field) ↔
          c.acceptsIndicators p.field := by simp [hcontrol, hcounts]
      simp only [hif]
    · rw [if_neg hcounts, if_neg fun h => hcounts h.2.1]
      rfl

theorem map_filter_found_control (hi : i.Includes (interestOf [e])) {k : String × PlacedControl}
    (hk : k ∈ placedControls record) :
    ((e.found (build record i)).filter fun v => v.1 = k.2.origin).map Prod.snd =
      e.scanControl (k.1, k.2.value) := by
  obtain ⟨n, hn⟩ := exists_control_of_mem_placeControls ((keepLast_sublist _).subset hk)
  rw [map_filter_found, scanControl]
  refine List.flatMap_congr fun c hc => ?_
  by_cases hcontrol : c.isControl
  · rw [componentValues, if_pos hcontrol,
      controlValues_build (control_of_mem_components hi hc hcontrol), filter_valuesAt,
      StableSort.filter_filter_eq_singleton (fun k => k.2.origin)
        (nodup_origin_placedControls record) hk]
    by_cases htag : k.1 = c.tag
    · rw [if_pos (decide_eq_true htag), if_pos ⟨hcontrol, htag.symm⟩, map_snd_valuesAt_singleton]
    · rw [if_neg (by simpa using htag), if_neg fun h => htag h.2.symm]
      rfl
  · rw [if_neg fun h => hcontrol h.1, componentValues_of_not_isControl hcontrol, filter_valuesAt]
    have hnone : (e.entries c (build record i)).filter (fun p => p.origin = k.2.origin) = [] := by
      rw [List.filter_eq_nil_iff]
      intro p hp
      obtain ⟨m, hm⟩ := exists_data_of_mem_place (mem_placedFields_of_mem_entries hp)
      simp [hm, hn]
    rw [hnone]
    rfl

/-! ## All values -/

/-- The origins of the fields that count, in record order. -/
def origins (record : RecordView) (i : Interest) : List Origin :=
  (placedControls record).map (fun k => k.2.origin)
    ++ (placedFields record i).map PlacedField.origin

theorem pairwise_origins (record : RecordView) (i : Interest) :
    (origins record i).Pairwise fun a b => a.le b ∧ a ≠ b := by
  rw [origins, List.pairwise_append, List.pairwise_map, List.pairwise_map]
  refine ⟨(pairwise_placeControls ..).sublist (keepLast_sublist _), pairwise_place .., ?_⟩
  intro a ha b hb
  obtain ⟨k, hk, rfl⟩ := List.mem_map.mp ha
  obtain ⟨p, hp, rfl⟩ := List.mem_map.mp hb
  obtain ⟨m, hm⟩ := exists_control_of_mem_placeControls ((keepLast_sublist _).subset hk)
  obtain ⟨n, hn⟩ := exists_data_of_mem_place hp
  simp only [hm, hn]
  exact ⟨rfl, by simp⟩

theorem mem_origins_of_mem_found (hi : i.Includes (interestOf [e])) {v : Found}
    (hv : v ∈ e.found (build record i)) : v.1 ∈ origins record i := by
  obtain ⟨c, hc, hvc⟩ := List.mem_flatMap.mp hv
  rw [origins, List.mem_append]
  by_cases hcontrol : c.isControl
  · left
    rw [componentValues, if_pos hcontrol,
      controlValues_build (control_of_mem_components hi hc hcontrol)] at hvc
    exact List.map_subset _ (List.filter_subset_self _) (mem_map_of_mem_valuesAt _ _ hvc)
  · right
    rw [componentValues_of_not_isControl hcontrol] at hvc
    exact List.map_subset _ (fun p => mem_placedFields_of_mem_entries)
      (mem_map_of_mem_valuesAt _ _ hvc)

theorem flatMap_filter_of_eq_nil {α β : Type} {p : α → Bool} {g : α → List β} {l : List α}
    (h : ∀ a ∈ l, ¬ p a → g a = []) : (l.filter p).flatMap g = l.flatMap g := by
  induction l with
  | nil => rfl
  | cons a rest ih =>
    have hrest := ih fun b hb => h b (List.mem_cons_of_mem _ hb)
    by_cases ha : p a
    · rw [List.filter_cons_of_pos ha, List.flatMap_cons, List.flatMap_cons, hrest]
    · rw [List.filter_cons_of_neg ha, List.flatMap_cons, hrest, h a (List.mem_cons_self ..) ha,
        List.nil_append]

theorem scanField_eq_nil (hi : i.Includes (interestOf [e])) {f : Field}
    (hf : ¬ i.contains f.tag) : e.scanField f = [] := by
  rw [scanField, List.flatMap_eq_nil_iff]
  intro c hc
  refine if_neg fun h => hf ?_
  obtain ⟨hdata, hcounts, -⟩ := h
  by_cases ha : f.tag = alternateTag
  · exact ha ▸ contains_alternateTag hi
  · rw [counts_of_not_alternate ha] at hcounts
    exact hcounts.2 ▸ contains_of_mem_components hi hc hdata

/-- An extractor selects from an index that holds what it needs the values of the scan. -/
theorem selectedValues_build (hi : i.Includes (interestOf [e])) :
    e.selectedValues (build record i) = e.scan record := by
  have hsort := StableSort.mergeSort_eq_flatMap Prod.fst Origin.isOrder
    (pairwise_origins record i) fun v => mem_origins_of_mem_found hi
  have hcontrols : ((placedControls record).flatMap fun k =>
      ((e.found (build record i)).filter fun v => v.1 = k.2.origin).map Prod.snd) =
        (keepLast record.control).flatMap e.scanControl := by
    rw [← map_value_placedControls, List.flatMap_map]
    exact List.flatMap_congr fun k hk => map_filter_found_control hi hk
  have hfields : ((placedFields record i).flatMap fun p =>
      ((e.found (build record i)).filter fun v => v.1 = p.origin).map Prod.snd) =
        record.fields.flatMap e.scanField := by
    calc _ = (placedFields record i).flatMap fun p => e.scanField p.field :=
          List.flatMap_congr fun p hp => map_filter_found_field hi hp
      _ = (record.fields.filter fun f => i.contains f.tag).flatMap e.scanField := by
          rw [← map_field_placedFields, List.flatMap_map]
      _ = record.fields.flatMap e.scanField := by
          exact flatMap_filter_of_eq_nil fun f _ hf => scanField_eq_nil hi hf
  rw [selectedValues]
  change ((e.found (build record i)).mergeSort fun a b => a.1.le b.1).map Prod.snd = _
  rw [hsort, origins, List.flatMap_append, List.map_append, List.flatMap_map, List.flatMap_map,
    List.map_flatMap, List.map_flatMap, hcontrols, hfields, scan]

/-- **Extraction is a scan.** An extractor without a derivation gives on every index that holds at
least what it needs the values that a direct scan of the record gives. -/
theorem values_eq_scan (e : Extractor) (hd : e.derivation = none) (record : RecordView)
    (i : Interest) (hi : i.Includes (interestOf [e])) (languages : LanguageTable) :
    e.values (build record i) languages = e.scan record := by
  rw [values, hd]
  exact selectedValues_build hi

/-! ### A record with links and a repeated control field -/

/-- Components out of record order, one of them with an indicator. -/
def titlesAndNotes : Extractor where
  name := "titles"
  components := [
    ⟨"500", .any, .any, .each 'a', none⟩, ⟨"245", .any, .exact '0', .each 'b', none⟩,
    ⟨"245", .any, .any, .each 'a', none⟩, ⟨"001", .any, .any, .all, some (.range 0 2)⟩,
    ⟨"001", .any, .any, .all, none⟩]
  scripts := .both
  trims := false
  filter := none
  delimiter := " "
  derivation := none
  keepsOrder := false

/-- A control field twice, a field that links to a title and one that links to what nobody reads. -/
def linkedRecord : RecordView where
  control := [("001", "old"), ("008", "date"), ("001", "new number")]
  fields := [
    ⟨"880", '1', '0', [⟨'6', "245-01"⟩, ⟨'a', "linked title"⟩]⟩,
    ⟨"245", '1', '0', [⟨'a', "title"⟩, ⟨'b', "rest"⟩, ⟨'a', "again"⟩]⟩,
    ⟨"999", ' ', ' ', [⟨'a', "local"⟩]⟩,
    ⟨"880", '1', '0', [⟨'6', "999-02"⟩, ⟨'a', "linked local"⟩]⟩,
    ⟨"500", ' ', ' ', [⟨'a', "note"⟩]⟩]

theorem values_eq_scan_linkedRecord :
    Config.compile {
      name := "titles"
      fieldSpec := some "500a:245|*0|b:245a:001[0-2]:001"
      trims := false } = .ok titlesAndNotes ∧
    titlesAndNotes.derivation = none ∧
    ((interestOf [titlesAndNotes]).addTag "999").Includes (interestOf [titlesAndNotes]) ∧
    titlesAndNotes.values (build linkedRecord ((interestOf [titlesAndNotes]).addTag "999")) ⟨∅⟩ =
      ["new", "new number", "linked title", "rest", "title", "again", "note"] := by
  have hi := (interestOf [titlesAndNotes]).includes_addTag "999"
  refine ⟨rfl, rfl, hi, ?_⟩
  rw [values_eq_scan titlesAndNotes rfl linkedRecord _ hi]
  decide

end Extractor

end MarcHarvest
