import Mathlib.Data.List.Induction
import MarcHarvest.Proofs.Batch.Loading
import MarcHarvest.Proofs.Extractor.Scan

/-!
# Batches and single runs

Extractors that share an index do not influence each other: each one gives what it gives alone, on
an index that holds only what it asks for (`values_build`). The output of a batch is therefore
determined by the single runs (`run_eq_alone`): a name stands for the last extractor that has it and
gives values, at the place of the first.
-/

namespace MarcHarvest

/-! ## One extractor -/

namespace Extractor

/-- The values of an extractor on an index of its own. -/
def alone (e : Extractor) (languages : LanguageTable) (record : RecordView) : List String :=
  e.values (.build record (interestOf [e])) languages

/-- A larger index changes nothing: an extractor gives what it gives alone. -/
theorem values_build {e : Extractor} {i : Interest} (hi : i.Includes (interestOf [e]))
    (languages : LanguageTable) (record : RecordView) :
    e.values (.build record i) languages = e.alone languages record := by
  have hown := Interest.Includes.refl (interestOf [e])
  rw [alone, values, values, selectedValues_build hi, selectedValues_build hown]
  cases hd : e.derivation with
  | none => rfl
  | some d =>
    exact Derivation.apply_build_eq (supplied_of_includes hi hd) (supplied_of_includes hown hd)
      record languages _

theorem alone_eq_scan {e : Extractor} (hd : e.derivation = none) (languages : LanguageTable)
    (record : RecordView) : e.alone languages record = e.scan record := by
  rw [alone, values, hd]
  exact selectedValues_build (Interest.Includes.refl _)

end Extractor

/-! ## The output of several extractors -/

namespace Batch

/-- Whether an extractor gives values under a name. -/
def yields (values : Extractor → List String) (name : String) (e : Extractor) : Bool :=
  e.name == name && !(values e).isEmpty

/-- An output that is put together from the values of single extractors. -/
structure IsOutput (values : Extractor → List String) (es : List Extractor)
    (output : OrderedMap String (List String)) : Prop where
  /-- A name is a key if some extractor gives values under it. -/
  mem_keys : ∀ name, name ∈ output.keys ↔ ∃ e ∈ es, yields values name e
  /-- The values of a name are those of the last such extractor. -/
  get?_eq : ∀ name, output.get? name = (es.filter (yields values name)).getLast?.map values
  /-- The keys stand in the order of the first such extractors. -/
  pairwise_keys : output.keys.Pairwise fun m n =>
    es.findIdx (yields values m) < es.findIdx (yields values n)

def put (values : List String) (name : String) (output : OrderedMap String (List String)) :
    OrderedMap String (List String) :=
  match values with
  | [] => output
  | values => output.insert name values

/-- The output of extractors whose values are given. -/
def collect (values : Extractor → List String) (es : List Extractor) :
    OrderedMap String (List String) :=
  es.foldl (fun output e => put (values e) e.name output) ∅

theorem run_eq_collect (b : Batch) (record : RecordView) :
    b.run record =
      collect (fun e => e.values (.build record b.interest) b.languages) b.extractors :=
  rfl

theorem collect_congr {v w : Extractor → List String} {es : List Extractor}
    (h : ∀ e ∈ es, v e = w e) : collect v es = collect w es :=
  List.foldl_ext _ _ _ fun output e he => by rw [h e he]

variable (values : Extractor → List String)

theorem yields_iff {name : String} {e : Extractor} :
    yields values name e ↔ e.name = name ∧ values e ≠ [] := by
  simp [yields]

theorem collect_append (es : List Extractor) (e : Extractor) :
    collect values (es ++ [e]) = put (values e) e.name (collect values es) := by
  rw [collect, List.foldl_append, List.foldl_cons, List.foldl_nil]
  rfl

theorem put_of_ne_nil {vs : List String} (h : vs ≠ []) (name : String)
    (output : OrderedMap String (List String)) : put vs name output = output.insert name vs := by
  cases vs with
  | nil => exact absurd rfl h
  | cons v rest => rfl

theorem put_of_eq_nil {vs : List String} (h : vs = []) (name : String)
    (output : OrderedMap String (List String)) : put vs name output = output := by
  rw [h, put]

theorem mem_keys_collect (es : List Extractor) (name : String) :
    name ∈ (collect values es).keys ↔ ∃ e ∈ es, yields values name e := by
  induction es using List.reverseRecOn with
  | nil => simp [collect, OrderedMap.keys]
  | append_singleton es e ih =>
    have hsplit : (∃ e' ∈ es ++ [e], yields values name e') ↔
        (∃ e' ∈ es, yields values name e') ∨ yields values name e := by
      simp only [List.mem_append, List.mem_singleton, or_and_right, exists_or, exists_eq_left]
    rw [hsplit, collect_append, ← ih, yields_iff]
    by_cases hv : values e = []
    · rw [put_of_eq_nil hv]
      exact ⟨Or.inl, fun h => h.elim id fun h => absurd hv h.2⟩
    · rw [put_of_ne_nil hv, OrderedMap.mem_keys_insert]
      exact or_congr_right ⟨fun h => ⟨h.symm, hv⟩, fun h => h.1.symm⟩

theorem get?_collect (es : List Extractor) (name : String) :
    (collect values es).get? name = (es.filter (yields values name)).getLast?.map values := by
  induction es using List.reverseRecOn with
  | nil => rfl
  | append_singleton es e ih =>
    rw [collect_append, List.filter_append]
    by_cases hv : values e = []
    · have hnot : ¬ yields values name e := fun h => (yields_iff values).mp h |>.2 hv
      rw [put_of_eq_nil hv, List.filter_cons_of_neg hnot, List.filter_nil, List.append_nil, ih]
    · rw [put_of_ne_nil hv, OrderedMap.get?_insert]
      by_cases hname : e.name = name
      · have hyes : yields values name e := (yields_iff values).mpr ⟨hname, hv⟩
        rw [if_pos hname, List.filter_cons_of_pos hyes, List.filter_nil, List.getLast?_append]
        rfl
      · have hnot : ¬ yields values name e := fun h => hname ((yields_iff values).mp h).1
        rw [if_neg hname, List.filter_cons_of_neg hnot, List.filter_nil, List.append_nil, ih]

theorem findIdx_lt_of_mem_keys {es : List Extractor} {name : String}
    (h : name ∈ (collect values es).keys) : es.findIdx (yields values name) < es.length := by
  obtain ⟨e, he, hy⟩ := (mem_keys_collect values es name).mp h
  exact List.findIdx_lt_length_of_exists ⟨e, he, hy⟩

theorem pairwise_keys_collect (es : List Extractor) :
    (collect values es).keys.Pairwise fun m n =>
      es.findIdx (yields values m) < es.findIdx (yields values n) := by
  induction es using List.reverseRecOn with
  | nil => exact List.Pairwise.nil
  | append_singleton es e ih =>
    -- a key that was there keeps its first extractor
    have hold : ∀ n ∈ (collect values es).keys,
        (es ++ [e]).findIdx (yields values n) = es.findIdx (yields values n) := by
      intro n hn
      rw [List.findIdx_append, if_pos (findIdx_lt_of_mem_keys values hn)]
    have ih' : (collect values es).keys.Pairwise fun m n =>
        (es ++ [e]).findIdx (yields values m) < (es ++ [e]).findIdx (yields values n) := by
      refine ih.imp_of_mem fun hm hn h => ?_
      rwa [hold _ hm, hold _ hn]
    rw [collect_append]
    by_cases hv : values e = []
    · rwa [put_of_eq_nil hv]
    · rw [put_of_ne_nil hv, OrderedMap.keys_insert]
      split
      · exact ih'
      · next hnew =>
        rw [List.pairwise_append]
        refine ⟨ih', List.pairwise_singleton .., fun m hm n hn => ?_⟩
        rw [List.mem_singleton] at hn
        -- a new key has no extractor before the last
        have hnone : ¬ es.findIdx (yields values n) < es.length := by
          intro hlt
          have hfound := List.findIdx_getElem (w := hlt)
          exact hnew (hn ▸ (mem_keys_collect values es n).mpr ⟨_, List.getElem_mem hlt, hfound⟩)
        have hlt := findIdx_lt_of_mem_keys values hm
        rw [hold m hm, List.findIdx_append, if_neg hnone]
        omega

theorem isOutput_collect (es : List Extractor) : IsOutput values es (collect values es) where
  mem_keys := mem_keys_collect values es
  get?_eq := get?_collect values es
  pairwise_keys := pairwise_keys_collect values es

theorem get?_collect_of_unique {es : List Extractor} {e : Extractor} (he : e ∈ es)
    (hunique : ∀ e' ∈ es, e'.name = e.name → e' = e) :
    (collect values es).get? e.name = if values e = [] then none else some (values e) := by
  rw [get?_collect]
  have hmem : ∀ e' ∈ es.filter (yields values e.name), e' = e ∧ values e ≠ [] := by
    intro e' he'
    obtain ⟨he', hyields⟩ := List.mem_filter.mp he'
    obtain ⟨hname, hvalues⟩ := (yields_iff values).mp hyields
    obtain rfl := hunique e' he' hname
    exact ⟨rfl, hvalues⟩
  cases hlast : (es.filter (yields values e.name)).getLast? with
  | none =>
    have hnil := List.getLast?_eq_none_iff.mp hlast
    have hvalues : values e = [] := by
      by_contra hne
      have hyes := List.mem_filter.mpr ⟨he, (yields_iff values).mpr ⟨rfl, hne⟩⟩
      rw [hnil] at hyes
      cases hyes
    rw [if_pos hvalues, Option.map_none]
  | some e' =>
    obtain ⟨rfl, hne⟩ := hmem e' (List.mem_of_getLast? hlast)
    rw [if_neg hne, Option.map_some]

/-! ## A batch -/

/-- On the shared index every extractor gives what it gives alone. -/
theorem run_eq_collect_alone (b : Batch) (record : RecordView) :
    b.run record = collect (fun e => e.alone b.languages record) b.extractors := by
  rw [run_eq_collect]
  exact collect_congr fun e he =>
    Extractor.values_build (Extractor.includes_interestOf he) b.languages record

/-- **A batch agrees with single runs.** Configurations that all compile make a batch; its output is
put together from what each extractor gives on an index of its own, and on the shared index every
extractor gives the same. -/
theorem run_eq_alone {configs : List Config} {es : List Extractor}
    (hes : List.Forall₂ (fun c e => c.compile = .ok e) configs es) (languages : LanguageTable)
    (record : RecordView) :
    ∃ b, ofConfigs configs = .ok b ∧ b.extractors = es ∧
      IsOutput (fun e => e.alone languages record) es ((b.withLanguages languages).run record) ∧
      ∀ e ∈ es, e.values (.build record b.interest) languages = e.alone languages record := by
  refine ⟨{ extractors := es }, ?_, rfl, ?_, ?_⟩
  · rw [ofConfigs, mapM_compile hes]
    rfl
  · rw [run_eq_collect_alone]
    exact isOutput_collect _ es
  · intro e he
    exact Extractor.values_build (Extractor.includes_interestOf he) languages record

/-- Selected titles under a name that is used again for a derivation of another kind. -/
def sharedNameConfigs : List Config := [
  { name := "titles", fieldSpec := some "500a:245|*0|b:245a:001[0-2]:001", trims := false },
  { name := "dates", function := some "dateExtractor" },
  { name := "titles", function := some "sortTitleExtractor" }]

def derived (name : String) (d : Derivation) : Extractor where
  name := name
  components := []
  scripts := .both
  trims := true
  filter := none
  delimiter := " "
  derivation := some d
  keepsOrder := false

theorem run_eq_alone_sharedName :
    let es := [Extractor.titlesAndNotes, derived "dates" .publicationDate,
      derived "titles" .sortTitle]
    List.Forall₂ (fun c e => c.compile = .ok e) sharedNameConfigs es ∧
    ∃ b, ofConfigs sharedNameConfigs = .ok b ∧ b.extractors = es ∧
      IsOutput (fun e => e.alone .standard Extractor.linkedRecord) es
        ((b.withLanguages .standard).run Extractor.linkedRecord) ∧
      ∀ e ∈ es, e.values (.build Extractor.linkedRecord b.interest) .standard =
        e.alone .standard Extractor.linkedRecord := by
  have hes : List.Forall₂ (fun c e => c.compile = .ok e) sharedNameConfigs
      [Extractor.titlesAndNotes, derived "dates" .publicationDate, derived "titles" .sortTitle] :=
    .cons rfl (.cons rfl (.cons rfl .nil))
  exact ⟨hes, run_eq_alone hes .standard Extractor.linkedRecord⟩

end Batch

end MarcHarvest
