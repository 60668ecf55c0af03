import MarcHarvest.Extractor.Basic
import MarcHarvest.Proofs.Component.Grammar
import MarcHarvest.Proofs.Derivation.DatePrecedence
import MarcHarvest.Proofs.Extractor.Compilation
import MarcHarvest.Proofs.Extractor.Scan
import MarcHarvest.Proofs.Index.Invariant
import MarcHarvest.Proofs.Safety.Derivation

/-!
# Extraction does not fail

A run of an extractor with checked access: offsets select from payloads by slices, and derivations
run with their own checks. The offsets of a compiled extractor are words, since their reader refuses
larger numbers. That is all that the slices need (`extraction_safe`): the end of a range is one more
than its last offset or the largest word, and neither is below its start.

What a run gives is compared with the extractor of the library through `Gives`: it is a value in any
case, and the same one if words can number the characters of the payloads.
-/

namespace MarcHarvest

/-! ## Offsets are words -/

def Offset.IsWord : Offset → Prop
  | position n => n < UInt64.size
  | range first last => first < UInt64.size ∧ last < UInt64.size

/-- Whether the offset of a component, if it has one, consists of words. -/
def Component.HasWords (c : Component) : Prop := ∀ o, c.offset = some o → o.IsWord

theorem Component.isWord_of_writesOffset {l : List Char} {o : Offset} (h : WritesOffset l o) :
    o.IsWord := by
  cases h with
  | position h => exact h.lt_size
  | range h h' => exact ⟨h.lt_size, h'.lt_size⟩

theorem Component.hasWords_of_parse {s : String} {c : Component} (h : parse s = .ok c) :
    c.HasWords := by
  intro o ho
  have hwrites := read_sound (parse_eq_ok_iff_read.mp h)
  generalize expandLetters s.toList = l at hwrites
  cases hwrites with
  | mk hind hsel =>
    cases hsel with
    | offset hoffset =>
      obtain rfl := Option.some.inj ho
      exact isWord_of_writesOffset hoffset
    | _ => cases ho

theorem Component.offset_of_mem_expand {c d : Component} (h : d ∈ c.expand) :
    d.offset = c.offset := by
  unfold expand at h
  split at h
  · obtain ⟨n, -, rfl⟩ := List.mem_map.mp h
    rfl
  · obtain ⟨n, -, rfl⟩ := List.mem_map.mp h
    rfl
  · rw [List.mem_singleton.mp h]

theorem FieldSpec.hasWords_of_compile {spec : String} {cs : List Component}
    (h : compile spec = .ok cs) : ∀ c ∈ cs, c.HasWords := by
  obtain ⟨parsed, hparsed, h⟩ := exists_of_bind_eq_ok h
  cases h
  intro c hc o ho
  obtain ⟨d, hd, hcd⟩ := List.mem_flatMap.mp hc
  rw [Component.offset_of_mem_expand hcd] at ho
  obtain ⟨s, -, hs⟩ := exists_of_mem_mapM hparsed hd
  exact Component.hasWords_of_parse hs o ho

theorem Config.hasWords_of_compile {c : Config} {e : Extractor} (h : c.compile = .ok e) :
    ∀ k ∈ e.components, k.HasWords := by
  obtain ⟨components, _, _, hcomponents, -, -, rfl⟩ := compile_eq_ok_iff.mp h
  change ∀ k ∈ components, k.HasWords
  rw [compileComponents] at hcomponents
  split at hcomponents
  · exact FieldSpec.hasWords_of_compile hcomponents
  · cases hcomponents
    exact fun k hk => absurd hk List.not_mem_nil

namespace Checked

open Extractor (Found)

/-! ## Control fields -/

def select? : Offset → List Char → Except Fault (Option (List Char))
  | .position n, l => .ok (l[n]?.map fun c => [c])
  | .range first last, l =>
    if first < last ∧ first < l.length then
      (slice l first (min l.length (addSaturating last 1))).map some
    else .ok none

def controlValues (c : Component) (index : Index) : Except Fault (List Found) :=
  match index.controlField? c.tag with
  | none => .ok []
  | some entry => match c.offset with
    | none => .ok [(entry.origin, entry.value)]
    | some offset => (select? offset entry.value.toList).map fun l =>
      l.toList.map fun l => (entry.origin, String.ofList l)

/-- The end of a range is at least its start and at most the end of the payload. It differs from one
more than the last offset only if the payload is longer than the largest word. -/
theorem gives_select? {o : Offset} (ho : o.IsWord) (l : List Char) :
    Gives (l.length < UInt64.size) (select? o l) (o.select? l) := by
  cases o with
  | position n => exact .of_eq rfl
  | range first last =>
    obtain ⟨-, hlast⟩ := ho
    rw [select?, Offset.select?]
    split
    · next h =>
      have hstop := lt_addSaturating h.1 hlast
      rw [slice_of_le (Nat.le_min.mpr ⟨by omega, by omega⟩) (Nat.min_le_left ..)]
      refine ⟨_, rfl, fun hl => congrArg some ?_⟩
      rw [min_addSaturating hl, List.take_eq_take_iff, List.length_drop]
      omega
    · exact .of_eq rfl

/-- Whether every payload in an index can be numbered by words. -/
def PayloadsFit (index : Index) : Prop :=
  ∀ t entry, index.controlField? t = some entry → entry.value.toList.length < UInt64.size

theorem gives_controlValues {c : Component} (hc : c.HasWords) (index : Index) :
    Gives (PayloadsFit index) (controlValues c index) (Extractor.controlValues c index) := by
  rw [controlValues, Extractor.controlValues]
  cases hentry : index.controlField? c.tag with
  | none => exact .of_eq rfl
  | some entry =>
    cases ho : c.offset with
    | none => exact .of_eq rfl
    | some o =>
      have hfit : PayloadsFit index → entry.value.toList.length < UInt64.size := fun hfit =>
        hfit c.tag entry hentry
      exact ((gives_select? (hc o ho) entry.value.toList).imp hfit).map _

/-! ## Extraction -/

def componentValues (e : Extractor) (index : Index) (c : Component) : Except Fault (List Found) :=
  if c.isControl then controlValues c index
  else .ok ((e.entries c index).flatMap fun entry =>
    (e.fieldValues c entry.field).map fun v => (entry.origin, v))

def selectedValues (e : Extractor) (index : Index) : Except Fault (List String) := do
  let found ← e.components.mapM (componentValues e index)
  return (found.flatten.mergeSort fun a b => a.1.le b.1).map Prod.snd

def values (e : Extractor) (index : Index) (languages : LanguageTable) :
    Except Fault (List String) := do
  let selected ← selectedValues e index
  match e.derivation with
  | some d => apply d index languages selected
  | none => return selected

/-- The values of an extractor on a record: it is indexed first. -/
def run (e : Extractor) (record : RecordView) (interest : Interest) (languages : LanguageTable) :
    Except Fault (List String) := do
  let index ← build record interest
  values e index languages

theorem gives_componentValues (e : Extractor) (index : Index) {c : Component} (hc : c.HasWords) :
    Gives (PayloadsFit index) (componentValues e index c) (e.componentValues index c) := by
  rw [componentValues, Extractor.componentValues]
  split
  · exact gives_controlValues hc index
  · exact .of_eq rfl

theorem gives_selectedValues {e : Extractor} (he : ∀ c ∈ e.components, c.HasWords) (index : Index) :
    Gives (PayloadsFit index) (selectedValues e index) (e.selectedValues index) := by
  have hfound := Gives.mapM fun c hc => gives_componentValues e index (he c hc)
  rw [Extractor.selectedValues, List.flatMap_def]
  exact hfound.bind fun found => rfl

theorem gives_values {e : Extractor} (he : ∀ c ∈ e.components, c.HasWords) (index : Index)
    (languages : LanguageTable) :
    Gives (PayloadsFit index) (values e index languages) (e.values index languages) := by
  rw [values, Extractor.values]
  cases e.derivation with
  | none => exact (gives_selectedValues he index).bind fun _ => rfl
  | some d => exact (gives_selectedValues he index).bind fun _ => apply_eq_ok ..

/-! ## Records that words can number -/

/-- Whether words can number the fields of a record and the characters of its payloads. -/
structure Addressable (record : RecordView) : Prop where
  fields : record.fields.length < UInt64.size
  control : record.control.length < UInt64.size
  payloads : ∀ c ∈ record.control, c.2.toList.length < UInt64.size

theorem Addressable.payloadsFit {record : RecordView} (h : Addressable record)
    (interest : Interest) : PayloadsFit (.build record interest) := by
  intro t entry hentry
  obtain ⟨-, before, after, hcontrol, -⟩ := Index.controlField?_build_eq_some_iff.mp hentry
  refine h.payloads (t, entry.value) ?_
  rw [hcontrol]
  exact List.mem_append_right before List.mem_cons_self

/-- **Extraction does not fail.** A compiled extractor gives values on every index, whatever the
payloads and fields in it, and every link can be read. On a record that words can number the whole
run, with the counters of its index, gives the values of the extractor. -/
theorem extraction_safe {c : Config} {e : Extractor} (hc : c.compile = .ok e) :
    (∀ index languages, ∃ found, values e index languages = .ok found) ∧
    (∀ f, linkedTag? f = .ok f.linkedTag?) ∧
    ∀ record interest languages, Addressable record →
      run e record interest languages = .ok (e.values (.build record interest) languages) := by
  have he := c.hasWords_of_compile hc
  refine ⟨fun index languages => ?_, linkedTag?_eq_ok, fun record interest languages h => ?_⟩
  · obtain ⟨found, hfound, -⟩ := gives_values he index languages
    exact ⟨found, hfound⟩
  · rw [run, build_eq_ok h.fields h.control, ok_bind]
    exact (gives_values he _ languages).eq (h.payloadsFit interest)

/-! ### Offsets and payloads at their limits -/

/-- The largest offset, a single character and a date. -/
def codesAndDate : Extractor where
  name := "codes"
  components := [
    ⟨"001", .any, .any, .all, some (.range 1 18446744073709551615)⟩,
    ⟨"008", .any, .any, .all, some (.position 14)⟩,
    ⟨"245", .any, .any, .each 'b', none⟩]
  scripts := .both
  trims := false
  filter := none
  delimiter := " "
  derivation := some .publicationDate
  keepsOrder := false

/-- Characters of several bytes, a payload that ends one character after its second date, and a link
of exactly three characters. -/
def widePayloads : RecordView where
  control := [("001", "é字𝒳"), ("008", "871002q195u202ué")]
  fields := [
    ⟨"880", ' ', ' ', [⟨'6', "字é𝒳"⟩, ⟨'b', "elsewhere"⟩]⟩,
    ⟨"245", '1', '4', [⟨'a', "title"⟩, ⟨'b', "rest"⟩]⟩]

theorem extraction_safe_widePayloads :
    Config.compile {
      name := "codes"
      fieldSpec := some "001[1-18446744073709551615]:008[14]:245b"
      trims := false
      function := some "dateExtractor" } = .ok codesAndDate ∧
    Addressable widePayloads ∧
    run codesAndDate widePayloads (Extractor.interestOf [codesAndDate]) .standard =
      .ok ["字𝒳", "u", "rest", "1950/2029"] := by
  have hcompile : Config.compile {
      name := "codes"
      fieldSpec := some "001[1-18446744073709551615]:008[14]:245b"
      trims := false
      function := some "dateExtractor" } = .ok codesAndDate := rfl
  have haddressable : Addressable widePayloads := ⟨by decide, by decide, by decide⟩
  have hi := Interest.Includes.refl (Extractor.interestOf [codesAndDate])
  have hdate := Extractor.supplied_of_includes hi (e := codesAndDate) rfl
  refine ⟨hcompile, haddressable, ?_⟩
  rw [(extraction_safe hcompile).2.2 _ _ _ haddressable, Extractor.values,
    Extractor.selectedValues_build hi]
  change Except.ok (Derivation.publicationDate.apply _ _ _) = _
  rw [Derivation.apply, PublicationDate.publicationDate?_build hdate]
  decide

end Checked

end MarcHarvest
