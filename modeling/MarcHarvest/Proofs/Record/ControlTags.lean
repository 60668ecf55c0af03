import MarcHarvest.Proofs.Batch.Isolation
import MarcHarvest.Proofs.Record.Exchange

/-!
# Control tags by order and by prefix

Reading MARC-in-JSON takes a field for a control field if its tag lies below 010 in the order of
strings; a component reads control fields if its tag begins with two zeros. In that order the tags
with this beginning are the ones from 00 on and below 01 (`Component.isControlTag_iff`). So both
tests agree on data fields, and on control fields unless the tag is `Disputed`: below 00, or from 01
on and below 010.

What a disputed tag holds is stored and lost: a component with the tag looks among the data fields.
Every other control field is found whole, and every data field with its values, under its own tag or
the one that it links to (`retrievable_of_ofMarcJson`).
-/

namespace MarcHarvest

/-! ## The prefix in the order of strings -/

theorem eq_zero_of_between {c : Char} (hlow : ¬ c < '0') (hhigh : c < '1') : c = '0' := by
  have hzero : ('0' : Char).val.toNat = 48 := rfl
  have hone : ('1' : Char).val.toNat = 49 := rfl
  rw [Char.lt_def, UInt32.lt_iff_toNat_lt] at hlow hhigh
  refine Char.ext (UInt32.toNat_inj.mp ?_)
  omega

theorem take_two_eq_zeros_iff (l : List Char) :
    l.take 2 = ['0', '0'] ↔ ¬ l < ['0', '0'] ∧ l < ['0', '1'] := by
  match l with
  | [] => simp
  | [a] =>
    refine ⟨fun h => (by simp at h), fun ⟨hlow, hhigh⟩ => ?_⟩
    simp only [List.cons_lt_cons_iff, not_or, not_and] at hlow hhigh
    rcases hhigh with hhigh | ⟨ha, -⟩
    · exact absurd hhigh hlow.1
    · exact absurd (List.nil_lt_cons '0' []) (hlow.2 ha)
  | a :: b :: rest =>
    simp only [List.take_succ_cons, List.take_zero, List.cons.injEq, and_true,
      List.cons_lt_cons_iff, List.not_lt_nil, and_false, or_false]
    constructor
    · rintro ⟨rfl, rfl⟩
      decide
    · rintro ⟨hlow, ha | ⟨rfl, hb⟩⟩
      · exact absurd (Or.inl ha) hlow
      · exact ⟨rfl, eq_zero_of_between (fun h => hlow (Or.inr ⟨rfl, h⟩)) hb⟩

theorem Component.isControlTag_iff (tag : String) :
    Component.isControlTag tag ↔ ¬ tag < "00" ∧ tag < "01" := by
  rw [Component.isControlTag, beq_iff_eq]
  exact take_two_eq_zeros_iff tag.toList

namespace Record

/-- Whether reading takes a tag for that of a control field while components do not. -/
def Disputed (tag : String) : Prop :=
  tag.length = 3 ∧ (tag < "00" ∨ ¬ tag < "01" ∧ tag < "010")

instance (tag : String) : Decidable (Disputed tag) := inferInstanceAs (Decidable (_ ∧ _))

theorem isControlTag_iff_not_disputed {tag : String} (h : IsControlTag tag) :
    Component.isControlTag tag ↔ ¬ Disputed tag := by
  rw [Component.isControlTag_iff, Disputed]
  simp only [h.1, h.2, true_and, and_true, not_or, Decidable.not_not]

theorem not_isControlTag {tag : String} (h : IsDataTag tag) : ¬ Component.isControlTag tag := by
  intro hcontrol
  have hlt : tag < "01" := ((Component.isControlTag_iff tag).mp hcontrol).2
  have hbound : "01" < "010" := by decide
  exact h.2 (String.lt_trans hlt hbound)

end Record

/-! ## One component -/

namespace Extractor

/-- Whether an extractor gives the values of one component as they are. -/
structure Reads (e : Extractor) (c : Component) : Prop where
  components_eq : e.components = [c]
  derivation_eq : e.derivation = none

variable {e : Extractor} {c : Component}

theorem scan_of_not_isControl (hc : e.components = [c]) (hdata : ¬ c.isControl)
    (record : RecordView) : e.scan record = record.fields.flatMap e.scanField := by
  have hnone : e.scanControl = fun _ => [] := by
    funext k
    simp [scanControl, hc, hdata]
  simp [scan, hnone]

theorem fieldValues_infix_scan (hc : e.components = [c]) (hdata : ¬ c.isControl) {f : Field}
    (hcounts : e.Counts c f) {record : RecordView} (hmem : f ∈ record.fields) :
    e.fieldValues c f <:+: e.scan record := by
  have hfield : e.scanField f = e.fieldValues c f := by
    simp [scanField, fieldValues, hc, hdata, hcounts]
  obtain ⟨before, after, hsplit⟩ := List.append_of_mem hmem
  refine ⟨before.flatMap e.scanField, after.flatMap e.scanField, ?_⟩
  rw [scan_of_not_isControl hc hdata, hsplit, List.flatMap_append, List.flatMap_cons, hfield,
    List.append_assoc]

theorem scan_of_isControl (hc : e.components = [c]) (hcontrol : c.isControl)
    (hoffset : c.offset = none) {r : Record} {payload : String}
    (hpayload : r.control? c.tag = some payload) : e.scan r.view = [payload] := by
  have hfields : e.scanField = fun _ => [] := by
    funext f
    simp [scanField, hc, hcontrol]
  have hother : ∀ k : String × String, k.1 ≠ c.tag → e.scanControl k = [] := by
    intro k hk
    simp [scanControl, hc, Ne.symm hk]
  have hsame : ∀ k : String × String, k.1 = c.tag → e.scanControl k = [k.2] := by
    intro k hk
    simp [scanControl, hc, hcontrol, Component.payloadValues, hoffset, hk]
  obtain ⟨k, hk, rfl⟩ := Option.map_eq_some_iff.mp hpayload
  obtain ⟨hmem, htag⟩ := (StableSort.find?_eq_some_iff Prod.fst r.control.nodup_keys).mp hk
  have hone := StableSort.filter_eq_singleton Prod.fst r.control.nodup_keys hmem
  have hkept : keepLast r.view.control = r.control.entries := keepLast_eq_self r.control.nodup_keys
  calc e.scan r.view
      = r.control.entries.flatMap e.scanControl := by simp [scan, hkept, hfields]
    _ = (r.control.entries.filter fun k => k.1 = c.tag).flatMap e.scanControl := by
        refine (flatMap_filter_of_eq_nil fun k _ hk => hother k ?_).symm
        simpa using hk
    _ = [k.2] := by rw [← htag, hone, List.flatMap_singleton, hsame k htag]

end Extractor

namespace Record

/-! ## What reading stores and components find -/

/-- What one component finds of a record. Only the tags of control fields matter. -/
structure Retrievable (r : Record) : Prop where
  /-- Components take the tag of a control field for one unless it is disputed. -/
  control_iff : ∀ tag ∈ r.control.keys, Component.isControlTag tag ↔ ¬ Disputed tag
  /-- They take no tag of a data field for that of a control field. -/
  data : ∀ f ∈ r.fields, ¬ Component.isControlTag f.tag
  /-- A component without an offset finds the payload of its tag, and nothing of it if the tag is
  disputed. -/
  payload : ∀ tag payload, r.control? tag = some payload →
    ∀ (e : Extractor) (c : Component) (languages : LanguageTable), e.Reads c → c.tag = tag →
      c.offset = none → e.alone languages r.view =
        if Disputed tag then e.alone languages { r.view with control := [] } else [payload]
  /-- A component that reads direct fields finds the values of each with its tag. -/
  direct : ∀ f ∈ r.fields, f.tag ≠ alternateTag →
    ∀ (e : Extractor) (c : Component) (languages : LanguageTable), e.Reads c → c.tag = f.tag →
      e.scripts ≠ .only → e.fieldValues c f <:+: e.alone languages r.view
  /-- A component that reads linked fields finds the values of each that links to its tag. -/
  linked : ∀ f ∈ r.fields, f.tag = alternateTag →
    ∀ (e : Extractor) (c : Component) (languages : LanguageTable), e.Reads c → ¬ c.isControl →
      f.linkedTag? = some c.tag → e.scripts ≠ .none →
      e.fieldValues c f <:+: e.alone languages r.view

theorem isControlTag_of_control? {r : Record} (hr : r.Exchangeable) {tag payload : String}
    (h : r.control? tag = some payload) : IsControlTag tag := by
  obtain ⟨k, hk, -⟩ := Option.map_eq_some_iff.mp h
  have htag : k.1 = tag := by simpa using List.find?_some hk
  exact htag ▸ hr.control k.1 (List.mem_map_of_mem (List.mem_of_find?_eq_some hk))

theorem retrievable_of_exchangeable {r : Record} (hr : r.Exchangeable) : Retrievable r where
  control_iff tag htag := isControlTag_iff_not_disputed (hr.control tag htag)
  data f hf := not_isControlTag (hr.fields f hf)
  payload tag payload hpayload e c languages he htag hoffset := by
    obtain ⟨hc, hd⟩ := he
    subst htag
    have hiff := isControlTag_iff_not_disputed (isControlTag_of_control? hr hpayload)
    rw [Extractor.alone_eq_scan hd, Extractor.alone_eq_scan hd]
    by_cases h : Disputed c.tag
    · have hdata : ¬ c.isControl := fun hcontrol => hiff.mp hcontrol h
      rw [if_pos h, Extractor.scan_of_not_isControl hc hdata,
        Extractor.scan_of_not_isControl hc hdata]
    · rw [if_neg h, Extractor.scan_of_isControl hc (hiff.mpr h) hoffset hpayload]
  direct f hf hne e c languages he htag hscripts := by
    have hdata : ¬ c.isControl := fun hcontrol =>
      not_isControlTag (hr.fields f hf) (htag ▸ hcontrol)
    have hcounts := (Extractor.counts_of_not_alternate hne).mpr ⟨hscripts, htag.symm⟩
    rw [Extractor.alone_eq_scan he.derivation_eq]
    exact Extractor.fieldValues_infix_scan he.components_eq hdata hcounts hf
  linked f hf halternate e c languages he hdata hlinked hscripts := by
    have hcounts := (Extractor.counts_of_alternate halternate).mpr ⟨hscripts, hlinked⟩
    rw [Extractor.alone_eq_scan he.derivation_eq]
    exact Extractor.fieldValues_infix_scan he.components_eq hdata hcounts hf

/-- **Reading and components agree but for disputed tags.** -/
theorem retrievable_of_ofMarcJson {j : Json} {r : Record} (h : ofMarcJson j = .ok r) :
    Retrievable r ∧
    (((∀ tag ∈ r.control.keys, Component.isControlTag tag) ∧
        ∀ f ∈ r.fields, ¬ Component.isControlTag f.tag) ↔
      ∀ tag ∈ r.control.keys, ¬ Disputed tag) := by
  have hfound := retrievable_of_exchangeable (exchangeable_of_ofMarcJson h)
  refine ⟨hfound, fun hagree tag htag => ?_, fun hundisputed => ⟨fun tag htag => ?_, hfound.data⟩⟩
  · exact (hfound.control_iff tag htag).mp (hagree.1 tag htag)
  · exact (hfound.control_iff tag htag).mpr (hundisputed tag htag)

/-- A document with a tag below 010 that does not begin with two zeros. -/
def localNumber : Json :=
  .object [("fields", .array [
    .object [("001", .text "558505")], .object [("01 ", .text "local number")],
    .object [("500", .object [("subfields", .array [.object [("a", .text "Note")]])])]])]

def localNumberRecord : Record :=
  .ofParts defaultLeader [("001", "558505"), ("01 ", "local number")]
    [⟨"500", ' ', ' ', [⟨'a', "Note"⟩]⟩]

def wholeTag (tag : String) : Extractor where
  name := "whole"
  components := [⟨tag, .any, .any, .all, none⟩]
  scripts := .both
  trims := true
  filter := none
  delimiter := " "
  derivation := none
  keepsOrder := false

theorem retrievable_of_ofMarcJson_localNumber :
    ofMarcJson localNumber = .ok localNumberRecord ∧
    (wholeTag "001").alone .standard localNumberRecord.view = ["558505"] := by
  have hread : ofMarcJson localNumber = .ok localNumberRecord := rfl
  have hfound := (retrievable_of_ofMarcJson hread).1
  refine ⟨hread, ?_⟩
  rw [hfound.payload "001" "558505" rfl (wholeTag "001") _ .standard ⟨rfl, rfl⟩ rfl rfl,
    if_neg (by decide)]

/-- The control field is stored, but a component with its tag does not find it. -/
theorem localNumber_not_found :
    ofMarcJson localNumber = .ok localNumberRecord ∧
    localNumberRecord.control? "01 " = some "local number" ∧
    Config.compile { name := "whole", fieldSpec := some "01 " } = .ok (wholeTag "01 ") ∧
    (wholeTag "01 ").run localNumberRecord.view = [] ∧
    ¬ ∀ (j : Json) (r : Record), ofMarcJson j = .ok r →
      (∀ tag ∈ r.control.keys, Component.isControlTag tag) ∧
        ∀ f ∈ r.fields, ¬ Component.isControlTag f.tag := by
  have hread : ofMarcJson localNumber = .ok localNumberRecord := rfl
  refine ⟨hread, rfl, rfl, ?_, fun h => ?_⟩
  · show (wholeTag "01 ").alone .standard localNumberRecord.view = []
    rw [Extractor.alone_eq_scan rfl]
    decide
  · have hcontrol := (h localNumber localNumberRecord hread).1 "01 " (by decide)
    revert hcontrol
    decide

end Record

end MarcHarvest
