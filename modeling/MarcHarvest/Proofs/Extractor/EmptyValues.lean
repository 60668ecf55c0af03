import MarcHarvest.Proofs.Batch.Isolation
import MarcHarvest.Proofs.Extractor.Grouping
import MarcHarvest.Proofs.Text.Remains

/-!
# Empty values

A selection takes no empty text, and an offset no empty part of a payload; fields with nothing else give
no value at all (`select_eq_nil_iff`). But a text is trimmed after it was selected, and what comes out then
is a value whatever is left of it. So the empty values of an extractor that neither filters nor derives are
those of its hollow texts, one for each (`values_empty_by_trimming`), and a batch lists the extractor for
them as for any others.
-/

namespace MarcHarvest

open Index Text

/-! ## Selected texts -/

theorem Offset.ne_nil_of_select? {o : Offset} {l m : List Char} (h : o.select? l = some m) :
    m ≠ [] := by
  cases o with
  | position n =>
    obtain ⟨c, -, rfl⟩ := Option.map_eq_some_iff.mp h
    exact List.cons_ne_nil c []
  | range first last =>
    rw [Offset.select?] at h
    split at h
    · next hin =>
      have hlength := congrArg List.length (Option.some.inj h)
      rw [List.length_take, List.length_drop] at hlength
      intro hnil
      rw [hnil, List.length_nil] at hlength
      omega
    · cases h

/-- Whether a selection takes the subfields with a code. -/
def Selection.takes : Selection → Char → Bool
  | all, code => Unicode.isAlphabetic .v17 code
  | each c, code => code == c
  | joined codes, code => codes.toList.contains code

namespace Extractor

variable {e : Extractor} {record : RecordView} {i : Interest}

theorem intercalate_ne_empty {delimiter t : String} {ts : List String} (ht : t ≠ "") :
    delimiter.intercalate (t :: ts) ≠ "" := by
  cases ts with
  | nil => simpa using ht
  | cons u us => simp [String.intercalate_cons_cons, String.append_eq_empty_iff, ht]

theorem oneValue_eq_nil_iff (delimiter : String) (texts : List String) :
    oneValue delimiter texts = [] ↔ ∀ t ∈ texts, t = "" := by
  rw [← not_iff_not, ← Ne, oneValue_ne_nil_iff]
  simp

theorem ne_empty_of_mem_oneValue {delimiter t : String} {texts : List String}
    (h : t ∈ oneValue delimiter texts) : t ≠ "" := by
  unfold oneValue at h
  split at h
  · cases h
  · next hsome =>
    obtain ⟨u, hu, hne⟩ : ∃ u ∈ texts, u ≠ "" := by simpa using hsome
    have hmem : u ∈ texts.filter (· ≠ "") := List.mem_filter.mpr ⟨hu, by simpa using hne⟩
    rw [List.mem_singleton.mp h]
    cases hfilter : texts.filter (· ≠ "") with
    | nil =>
      rw [hfilter] at hmem
      cases hmem
    | cons v vs =>
      have hv : v ∈ texts.filter (· ≠ "") := hfilter ▸ List.mem_cons_self
      exact intercalate_ne_empty (by simpa using (List.mem_filter.mp hv).2)

theorem ne_empty_of_mem_select {selection : Selection} {f : Field} {t : String}
    (h : t ∈ e.select selection f) : t ≠ "" := by
  cases selection with
  | all =>
    rw [select, toList_joinNonEmpty?] at h
    exact ne_empty_of_mem_oneValue h
  | each code =>
    simpa using (List.mem_filter.mp h).2
  | joined codes =>
    rw [select, toList_joinNonEmpty?] at h
    exact ne_empty_of_mem_oneValue h

theorem select_eq_nil_iff (e : Extractor) (selection : Selection) (f : Field) :
    e.select selection f = [] ↔ ∀ s ∈ f.subfields, selection.takes s.code → s.value = "" := by
  cases selection with
  | all =>
    rw [select, toList_joinNonEmpty?, oneValue_eq_nil_iff]
    simp only [Field.alphabeticValues, List.forall_mem_map, List.mem_filter, and_imp, Selection.takes]
  | each code =>
    rw [select, nonEmpty, List.filter_eq_nil_iff]
    simp only [Field.valuesOf, List.forall_mem_map, List.mem_filter, and_imp, Selection.takes]
    simp
  | joined codes =>
    have htakes : ∀ s, s ∈ selectJoined e.keepsOrder codes f ↔
        s ∈ f.subfields ∧ (Selection.joined codes).takes s.code := fun s =>
      (perm_selectJoined e.keepsOrder codes f).mem_iff.trans List.mem_filter
    rw [select, toList_joinNonEmpty?, oneValue_eq_nil_iff]
    simp only [List.forall_mem_map, htakes, and_imp]

/-! ## Values of a record -/

/-- The texts that are taken from a data field, before they are trimmed. -/
def selectedTexts (e : Extractor) (f : Field) : List String :=
  e.components.flatMap fun c =>
    if ¬ c.isControl ∧ e.Counts c f ∧ c.acceptsIndicators f then e.select c.selection f else []

theorem scanField_eq_map (e : Extractor) (f : Field) :
    e.scanField f = (e.selectedTexts f).map e.finish := by
  rw [scanField, selectedTexts, List.map_flatMap]
  refine List.flatMap_congr fun c _ => ?_
  split <;> rfl

theorem selectedTexts_eq_nil_iff (e : Extractor) (f : Field) :
    e.selectedTexts f = [] ↔ ∀ c ∈ e.components, ¬ c.isControl → e.Counts c f →
      c.acceptsIndicators f → ∀ s ∈ f.subfields, c.selection.takes s.code → s.value = "" := by
  rw [selectedTexts, List.flatMap_eq_nil_iff]
  refine forall₂_congr fun c _ => ?_
  split
  · next hreads =>
    rw [select_eq_nil_iff]
    exact ⟨fun h _ _ _ => h, fun h => h hreads.1 hreads.2.1 hreads.2.2⟩
  · next hskips =>
    exact iff_of_true rfl fun hdata hcounts haccepts => absurd ⟨hdata, hcounts, haccepts⟩ hskips

theorem empty_not_mem_selectedTexts (e : Extractor) (f : Field) : "" ∉ e.selectedTexts f := by
  intro h
  obtain ⟨c, -, hc⟩ := List.mem_flatMap.mp h
  split at hc
  · exact ne_empty_of_mem_select hc rfl
  · cases hc

/-- The values of the control fields that count. -/
def controlTexts (e : Extractor) (record : RecordView) : List String :=
  (keepLast record.control).flatMap e.scanControl

/-- The texts of all data fields, in record order. -/
def dataTexts (e : Extractor) (record : RecordView) : List String :=
  record.fields.flatMap e.selectedTexts

/-- Neither a filter nor a derivation, and of control fields only characters at offsets. -/
structure Plain (e : Extractor) : Prop where
  filter : e.filter = none
  derivation : e.derivation = none
  offset : ∀ c ∈ e.components, c.isControl → c.offset ≠ none

/-- How values come from texts that are not empty, and which of them are empty. -/
structure EmptyByTrimming (e : Extractor) (record : RecordView) (values : List String) : Prop where
  eq : values = e.controlTexts record ++ (e.dataTexts record).map e.finish
  control : "" ∉ e.controlTexts record
  data : "" ∉ e.dataTexts record
  /-- A field gives no text just if no component takes a subfield of it that is not empty. -/
  field : ∀ f, e.selectedTexts f = [] ↔ ∀ c ∈ e.components, ¬ c.isControl → e.Counts c f →
    c.acceptsIndicators f → ∀ s ∈ f.subfields, c.selection.takes s.code → s.value = ""
  /-- Without trimming no value is empty, with it one for each hollow text. -/
  count : values.count "" =
    if e.trims then (e.dataTexts record).countP fun t => Hollow t.toList else 0

theorem empty_not_mem_controlTexts (he : e.Plain) (record : RecordView) :
    "" ∉ e.controlTexts record := by
  intro h
  obtain ⟨control, -, h⟩ := List.mem_flatMap.mp h
  obtain ⟨c, hc, h⟩ := List.mem_flatMap.mp h
  split at h
  · next hcontrol =>
    obtain ⟨o, ho⟩ := Option.ne_none_iff_exists'.mp (he.offset c hc hcontrol.1)
    rw [Component.payloadValues, ho] at h
    obtain ⟨l, hl, hempty⟩ := List.mem_map.mp h
    refine Offset.ne_nil_of_select? (Option.mem_toList.mp hl) ?_
    simpa using hempty
  · cases h

theorem finish_eq_empty_iff (he : e.Plain) {t : String} (ht : t ≠ "") :
    e.finish t = "" ↔ e.trims ∧ Hollow t.toList := by
  rw [finish, he.filter]
  by_cases htrims : e.trims
  · simp [htrims, trimPunctuation_eq_empty_iff]
  · simp [htrims, ht]

theorem emptyByTrimming_scan (he : e.Plain) (record : RecordView) :
    e.EmptyByTrimming record (e.scan record) := by
  have hcontrol := empty_not_mem_controlTexts he record
  have hdata : "" ∉ e.dataTexts record := by
    intro h
    obtain ⟨f, -, hf⟩ := List.mem_flatMap.mp h
    exact empty_not_mem_selectedTexts e f hf
  have heq : e.scan record = e.controlTexts record ++ (e.dataTexts record).map e.finish := by
    rw [scan, dataTexts, List.map_flatMap]
    exact congrArg _ (List.flatMap_congr fun f _ => scanField_eq_map e f)
  refine ⟨heq, hcontrol, hdata, selectedTexts_eq_nil_iff e, ?_⟩
  rw [heq, List.count_append, List.count_eq_zero_of_not_mem hcontrol, Nat.zero_add, List.count,
    List.countP_map]
  have hfinish : ∀ t ∈ e.dataTexts record, e.finish t = "" ↔ e.trims ∧ Hollow t.toList := by
    intro t ht
    exact finish_eq_empty_iff he fun hempty => hdata (hempty ▸ ht)
  by_cases htrims : e.trims
  · rw [if_pos htrims]
    refine List.countP_congr fun t ht => ?_
    simp [hfinish t ht, htrims]
  · rw [if_neg htrims, List.countP_eq_zero]
    intro t ht
    simp [hfinish t ht, htrims]

/-- **Values are empty by trimming alone.** Every selected text comes out, trimmed or not, and none is empty
before; so the empty values are those of the hollow texts. A batch leaves the extractor out just if
nothing was selected, not if nothing is left of what was selected. -/
theorem values_empty_by_trimming (he : e.Plain) (hi : i.Includes (interestOf [e]))
    (record : RecordView) (languages : LanguageTable) :
    e.EmptyByTrimming record (e.values (build record i) languages) ∧
    ∀ b : Batch, e ∈ b.extractors → (∀ e' ∈ b.extractors, e'.name = e.name → e' = e) →
      (b.run record).get? e.name =
        if e.controlTexts record = [] ∧ e.dataTexts record = [] then none
        else some (e.values (build record i) languages) := by
  have hscan : e.values (build record i) languages = e.scan record :=
    (values_build hi languages record).trans (alone_eq_scan he.derivation languages record)
  have hempty := emptyByTrimming_scan he record
  rw [hscan]
  refine ⟨hempty, fun b hb hunique => ?_⟩
  have hnil : e.scan record = [] ↔ e.controlTexts record = [] ∧ e.dataTexts record = [] := by
    rw [hempty.eq, List.append_eq_nil_iff, List.map_eq_nil_iff]
  rw [Batch.run_eq_collect_alone, Batch.get?_collect_of_unique _ hb hunique,
    alone_eq_scan he.derivation]
  simp only [hnil]

/-- The first title of each title field, and one character of a control field. -/
def titlesAndType : Extractor where
  name := "title"
  components := [
    ⟨"245", .any, .any, .each 'a', none⟩, ⟨"008", .any, .any, .all, some (.position 6)⟩]
  scripts := .both
  trims := true
  filter := none
  delimiter := " "
  derivation := none
  keepsOrder := false

theorem plain_titlesAndType : titlesAndType.Plain where
  filter := rfl
  derivation := rfl
  offset c hc hcontrol := by
    simp only [titlesAndType, List.mem_cons, List.not_mem_nil, or_false] at hc
    rcases hc with rfl | rfl
    · cases hcontrol
    · exact Option.some_ne_none _

/-- A title that is a period alone, one that is empty, and one with a mark. -/
def bareTitles : RecordView where
  control := [("008", "871002s1986")]
  fields := [
    ⟨"245", '0', '0', [⟨'a', "."⟩]⟩, ⟨"245", '0', '0', [⟨'a', ""⟩]⟩,
    ⟨"245", '0', '0', [⟨'a', "Title /"⟩]⟩]

theorem values_empty_by_trimming_bareTitles :
    Config.compile { name := "title", fieldSpec := some "245a:008[6]" } = .ok titlesAndType ∧
    titlesAndType.Plain ∧ (interestOf [titlesAndType]).Includes (interestOf [titlesAndType]) ∧
    titlesAndType.values (build bareTitles (interestOf [titlesAndType])) .standard =
      ["s", "", "Title"] := by
  have hi := Interest.Includes.refl (interestOf [titlesAndType])
  refine ⟨rfl, plain_titlesAndType, hi, ?_⟩
  have hvalues := values_empty_by_trimming plain_titlesAndType hi bareTitles .standard
  rw [hvalues.1.eq]
  decide

/-- Of a title that is a period alone an empty value is left, and a batch lists it. -/
theorem period_title_gives_empty_value :
    let record : RecordView := ⟨[], [⟨"245", '0', '0', [⟨'a', "."⟩]⟩]⟩
    titlesAndType.Plain ∧
    titlesAndType.values (build record (interestOf [titlesAndType])) .standard = [""] ∧
    (Batch.run { extractors := [titlesAndType] } record).get? "title" = some [""] := by
  intro record
  have hscan : titlesAndType.alone .standard record = [""] := by
    rw [alone_eq_scan rfl]
    decide
  refine ⟨plain_titlesAndType, hscan, ?_⟩
  rw [Batch.run_eq_collect_alone]
  have hget := Batch.get?_collect_of_unique (fun e => e.alone .standard record)
    (List.mem_singleton_self titlesAndType) fun e' he' _ => List.mem_singleton.mp he'
  rw [hscan] at hget
  exact hget

end Extractor

end MarcHarvest
