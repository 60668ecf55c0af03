import MarcHarvest.Proofs.Except
import MarcHarvest.Record.MarcJson

/-!
# Records that survive the exchange format

Writing tells control fields from data fields by where the record keeps them, reading by their tags.
Both agree on the records whose control tags and data tags fall on the two sides of 010
(`Exchangeable`): these are read back as they were written, all others are refused, and reading
gives no others (`ofMarcJson_toMarcJson`).
-/

namespace MarcHarvest.Record

/-! ## Reading back one field -/

theorem orderedMembers?_singleton (m : String × Json) :
    (Json.object [m]).orderedMembers? = some [m] :=
  rfl

theorem readSubfields_subfieldToJson (tag : String) (s : Subfield) :
    readSubfields tag (subfieldToJson s) = .ok [s] := by
  have hcode : s.code.toString.toList = [s.code] := String.toList_singleton s.code
  simp only [readSubfields, subfieldToJson, orderedMembers?_singleton, List.mapM_cons,
    List.mapM_nil, readSubfield, hcode]
  rfl

/-- The content of a data field as reading sees it, its keys in order. -/
def contentMembers (f : Field) : List (String × Json) :=
  [("ind1", .text f.ind1.toString), ("ind2", .text f.ind2.toString),
    ("subfields", .array (f.subfields.map subfieldToJson))]

theorem orderedMembers?_content (f : Field) :
    (Json.object (contentMembers f)).orderedMembers? = some (contentMembers f) := by
  have h12 : ¬ "ind2" < "ind1" ∧ "ind2" ≠ "ind1" := by decide
  have h1s : ¬ "subfields" < "ind1" ∧ "subfields" ≠ "ind1" := by decide
  have h2s : ¬ "subfields" < "ind2" ∧ "subfields" ≠ "ind2" := by decide
  simp [Json.orderedMembers?, Json.members?, Json.orderMembers, contentMembers, Json.placeMember,
    h12, h1s, h2s]

theorem readIndicator_of_lookup {key : String} {members : List (String × Json)} {c : Char}
    (h : Json.lookup? key members = some (.text c.toString)) : readIndicator key members = c := by
  have hc : c.toString.toList = [c] := String.toList_singleton c
  simp only [readIndicator, h, Option.bind_some, Json.text?, hc, List.head?_cons, Option.getD_some]

theorem readField_content (f : Field) :
    readField f.tag (.object (contentMembers f)) = .ok f := by
  have hind1 : readIndicator "ind1" (contentMembers f) = f.ind1 := readIndicator_of_lookup rfl
  have hind2 : readIndicator "ind2" (contentMembers f) = f.ind2 := readIndicator_of_lookup rfl
  have hitems : (Json.lookup? "subfields" (contentMembers f)).bind Json.items? =
      some (f.subfields.map subfieldToJson) := rfl
  have hread : (f.subfields.map subfieldToJson).mapM (readSubfields f.tag) =
      .ok (f.subfields.map fun s => [s]) := by
    have hpure : readSubfields f.tag ∘ subfieldToJson = fun s => pure [s] :=
      funext fun s => readSubfields_subfieldToJson f.tag s
    rw [List.mapM_map, hpure, List.mapM_pure]
    rfl
  have hflat : (f.subfields.map fun s => [s]).flatten = f.subfields := by
    rw [← List.flatMap_def, List.flatMap_singleton']
  simp only [readField, orderedMembers?_content, hitems, hread, hind1, hind2]
  change Except.ok (Field.mk f.tag f.ind1 f.ind2 (f.subfields.map fun s => [s]).flatten) = .ok f
  rw [hflat]

/-! ## Tags -/

/-- The tags that reading takes for tags of control fields. -/
def IsControlTag (tag : String) : Prop := tag.length = 3 ∧ tag < "010"

def IsDataTag (tag : String) : Prop := tag.length = 3 ∧ ¬ tag < "010"

instance (tag : String) : Decidable (IsControlTag tag) := inferInstanceAs (Decidable (_ ∧ _))
instance (tag : String) : Decidable (IsDataTag tag) := inferInstanceAs (Decidable (_ ∧ _))

theorem tag_cases (tag : String) : IsControlTag tag ∨ IsDataTag tag ∨ tag.length ≠ 3 := by
  by_cases hlength : tag.length = 3
  · by_cases hlt : tag < "010"
    · exact Or.inl ⟨hlength, hlt⟩
    · exact Or.inr (Or.inl ⟨hlength, hlt⟩)
  · exact Or.inr (Or.inr hlength)

theorem readMember_text {tag : String} (h : IsControlTag tag) (r : Record) (value : String) :
    readMember r (tag, .text value) = .ok (r.addControl tag value) := by
  have hentry : isControlEntry tag = true := decide_eq_true h.2
  unfold readMember
  dsimp only
  rw [if_neg (Decidable.not_not.mpr h.1), if_pos hentry]

theorem readMember_not_text {tag : String} (h : IsControlTag tag) (r : Record) {j : Json}
    (hj : j.text? = none) : readMember r (tag, j) = .error (.controlNotText tag) := by
  have hentry : isControlEntry tag = true := decide_eq_true h.2
  unfold readMember
  dsimp only
  rw [if_neg (Decidable.not_not.mpr h.1), if_pos hentry]
  cases j with
  | text value => cases hj
  | _ => rfl

theorem readMember_of_isDataTag {tag : String} (h : IsDataTag tag) (r : Record) (j : Json) :
    readMember r (tag, j) = (readField tag j).map r.addField := by
  have hentry : ¬ isControlEntry tag = true := fun h' => h.2 (of_decide_eq_true h')
  unfold readMember
  dsimp only
  rw [if_neg (Decidable.not_not.mpr h.1), if_neg hentry]

theorem readMember_of_length_ne {tag : String} (h : tag.length ≠ 3) (r : Record) (j : Json) :
    readMember r (tag, j) = .error (.invalidTag tag) := by
  unfold readMember
  dsimp only
  rw [if_pos h]

/-! ## Reading back one entry -/

theorem readEntry_singleton (r : Record) (m : String × Json) :
    readEntry r (.object [m]) = readMember r m := by
  simp only [readEntry, orderedMembers?_singleton, List.foldlM_cons, List.foldlM_nil]
  exact bind_pure _

theorem readEntry_controlToJson {c : String × String} (h : IsControlTag c.1) (r : Record) :
    readEntry r (controlToJson c) = .ok (r.addControl c.1 c.2) := by
  rw [controlToJson, readEntry_singleton, readMember_text h]

theorem readEntry_controlToJson_error {c : String × String} (h : ¬ IsControlTag c.1) (r : Record) :
    ∃ cause, readEntry r (controlToJson c) = .error cause := by
  rw [controlToJson, readEntry_singleton]
  obtain hc | hd | hlength := tag_cases c.1
  · exact absurd hc h
  · exact ⟨.fieldNotAnObject c.1, by rw [readMember_of_isDataTag hd]; rfl⟩
  · exact ⟨.invalidTag c.1, readMember_of_length_ne hlength r _⟩

theorem readEntry_fieldToJson {f : Field} (h : IsDataTag f.tag) (r : Record) :
    readEntry r (fieldToJson f) = .ok (r.addField f) := by
  have hwritten : fieldToJson f = .object [(f.tag, .object (contentMembers f))] := rfl
  rw [hwritten, readEntry_singleton, readMember_of_isDataTag h, readField_content]
  rfl

theorem readEntry_fieldToJson_error {f : Field} (h : ¬ IsDataTag f.tag) (r : Record) :
    ∃ cause, readEntry r (fieldToJson f) = .error cause := by
  rw [fieldToJson, readEntry_singleton]
  obtain hc | hd | hlength := tag_cases f.tag
  · exact ⟨.controlNotText f.tag, readMember_not_text hc r rfl⟩
  · exact absurd hd h
  · exact ⟨.invalidTag f.tag, readMember_of_length_ne hlength r _⟩

/-! ## Whole records -/

/-- The records that MARC-in-JSON can hold. -/
structure Exchangeable (r : Record) : Prop where
  control : ∀ tag ∈ r.control.keys, IsControlTag tag
  fields : ∀ f ∈ r.fields, IsDataTag f.tag

instance (r : Record) : Decidable r.Exchangeable :=
  decidable_of_iff
    ((∀ tag ∈ r.control.keys, IsControlTag tag) ∧ ∀ f ∈ r.fields, IsDataTag f.tag)
    ⟨fun h => ⟨h.1, h.2⟩, fun h => ⟨h.control, h.fields⟩⟩

def writtenEntries (r : Record) : List Json :=
  r.control.entries.map controlToJson ++ r.fields.map fieldToJson

theorem ofMarcJson_written (r : Record) :
    ofMarcJson r.toMarcJson = r.writtenEntries.foldlM readEntry (blank r.leader) := by
  have horder : (toMarcJson r).orderedMembers? =
      some [("fields", .array r.writtenEntries), ("leader", .text r.leader)] := by
    have hlt : "fields" < "leader" := by decide
    simp [toMarcJson, writtenEntries, Json.orderedMembers?, Json.members?, Json.orderMembers,
      Json.placeMember, hlt]
  rw [ofMarcJson, horder]
  rfl

theorem foldl_addControl (l : List (String × String)) (r : Record) :
    l.foldl (fun r c => r.addControl c.1 c.2) r =
      { r with control := l.foldl (fun m e => m.insert e.1 e.2) r.control } := by
  induction l generalizing r with
  | nil => rfl
  | cons c l ih =>
    rw [List.foldl_cons, ih]
    rfl

theorem foldl_addField (l : List Field) (r : Record) :
    l.foldl addField r = { r with fields := r.fields ++ l } := by
  induction l generalizing r with
  | nil => simp
  | cons f l ih =>
    rw [List.foldl_cons, ih]
    simp [addField]

theorem ofMarcJson_of_exchangeable {r : Record} (h : r.Exchangeable) :
    ofMarcJson r.toMarcJson = .ok r := by
  have hcontrol : (r.control.entries.map controlToJson).foldlM readEntry (blank r.leader) =
      .ok { blank r.leader with control := r.control } := by
    rw [List.foldlM_map, foldlM_eq_ok (g := fun s c => s.addControl c.1 c.2) fun s c hc =>
      readEntry_controlToJson (h.control c.1 (List.mem_map_of_mem hc)) s, foldl_addControl]
    change Except.ok { blank r.leader with control := OrderedMap.ofList r.control.entries } = _
    rw [OrderedMap.ofList_entries]
  have hfields (s : Record) : (r.fields.map fieldToJson).foldlM readEntry s =
      .ok { s with fields := s.fields ++ r.fields } := by
    rw [List.foldlM_map, foldlM_eq_ok (g := addField) fun s f hf =>
      readEntry_fieldToJson (h.fields f hf) s, foldl_addField]
  rw [ofMarcJson_written, writtenEntries, List.foldlM_append, hcontrol]
  exact hfields _

theorem ofMarcJson_error_of_mem {r : Record} {j : Json} (hj : j ∈ r.writtenEntries)
    (h : ∀ s, ∃ cause, readEntry s j = .error cause) :
    ∃ cause, ofMarcJson r.toMarcJson = .error cause := by
  rw [ofMarcJson_written]
  exact foldlM_eq_error hj h _

theorem ofMarcJson_of_not_exchangeable {r : Record} (h : ¬ r.Exchangeable) :
    ∃ cause, ofMarcJson r.toMarcJson = .error cause := by
  by_cases hcontrol : ∀ tag ∈ r.control.keys, IsControlTag tag
  · have hfields : ¬ ∀ f ∈ r.fields, IsDataTag f.tag := fun hfields => h ⟨hcontrol, hfields⟩
    simp only [Classical.not_forall] at hfields
    obtain ⟨f, hf, htag⟩ := hfields
    exact ofMarcJson_error_of_mem (List.mem_append_right _ (List.mem_map_of_mem hf))
      (readEntry_fieldToJson_error htag)
  · simp only [Classical.not_forall] at hcontrol
    obtain ⟨tag, hkey, htag⟩ := hcontrol
    obtain ⟨c, hc, rfl⟩ := List.mem_map.mp hkey
    exact ofMarcJson_error_of_mem (List.mem_append_left _ (List.mem_map_of_mem hc))
      (readEntry_controlToJson_error htag)

/-! ## What reading gives -/

theorem exchangeable_blank (leader : String) : (blank leader).Exchangeable :=
  ⟨fun _ h => absurd h List.not_mem_nil, fun _ h => absurd h List.not_mem_nil⟩

theorem Exchangeable.addControl {r : Record} (hr : r.Exchangeable) {tag : String}
    (htag : IsControlTag tag) (value : String) : (r.addControl tag value).Exchangeable := by
  refine ⟨fun t ht => ?_, hr.fields⟩
  rcases OrderedMap.mem_keys_insert.mp ht with ht | rfl
  · exact hr.control t ht
  · exact htag

theorem Exchangeable.addField {r : Record} (hr : r.Exchangeable) {f : Field}
    (hf : IsDataTag f.tag) : (r.addField f).Exchangeable := by
  refine ⟨hr.control, fun g hg => ?_⟩
  rcases List.mem_append.mp hg with hg | hg
  · exact hr.fields g hg
  · rw [List.mem_singleton.mp hg]
    exact hf

theorem tag_readField {tag : String} {j : Json} {f : Field} (h : readField tag j = .ok f) :
    f.tag = tag := by
  unfold readField at h
  split at h
  · cases h
  · next members _ =>
    split at h
    · cases h
    · next items _ =>
      obtain ⟨subfields, _, h⟩ := exists_of_bind_eq_ok h
      cases h
      rfl

theorem Exchangeable.readMember {r s : Record} (hr : r.Exchangeable) {m : String × Json}
    (h : readMember r m = .ok s) : s.Exchangeable := by
  obtain ⟨tag, j⟩ := m
  obtain hc | hd | hlength := tag_cases tag
  · cases j with
    | text value =>
      rw [readMember_text hc] at h
      cases h
      exact hr.addControl hc value
    | _ =>
      rw [readMember_not_text hc r rfl] at h
      cases h
  · rw [readMember_of_isDataTag hd] at h
    obtain ⟨f, hf, rfl⟩ := exists_of_map_eq_ok h
    rw [← tag_readField hf] at hd
    exact hr.addField hd
  · rw [readMember_of_length_ne hlength] at h
    cases h

theorem Exchangeable.readEntry {r s : Record} (hr : r.Exchangeable) {j : Json}
    (h : readEntry r j = .ok s) : s.Exchangeable := by
  unfold Record.readEntry at h
  split at h
  · exact foldlM_preserves (fun _ _ _ hs hm => hs.readMember hm) hr h
  · cases h

theorem exchangeable_of_ofMarcJson {j : Json} {r : Record} (h : ofMarcJson j = .ok r) :
    r.Exchangeable := by
  unfold ofMarcJson at h
  split at h
  · cases h
  · next members _ =>
    dsimp only at h
    split at h
    · cases h
    · exact foldlM_preserves (fun _ _ _ hs he => hs.readEntry he) (exchangeable_blank _) h

/-- Reading undoes writing on the records that MARC-in-JSON can hold, and refuses all others. What
it reads is always such a record. -/
theorem ofMarcJson_toMarcJson (r : Record) :
    (r.Exchangeable → ofMarcJson r.toMarcJson = .ok r) ∧
    (¬ r.Exchangeable → ∃ cause, ofMarcJson r.toMarcJson = .error cause) ∧
    ∀ j, ofMarcJson j = .ok r → r.Exchangeable ∧ ofMarcJson r.toMarcJson = .ok r := by
  refine ⟨ofMarcJson_of_exchangeable, ofMarcJson_of_not_exchangeable, fun j hj => ?_⟩
  have hr := exchangeable_of_ofMarcJson hj
  exact ⟨hr, ofMarcJson_of_exchangeable hr⟩

/-- A record with a control field and two linked titles. -/
def linkedTitles : Record :=
  .ofParts "00000cam a2200000 a 4500" [("001", "558505")]
    [⟨"245", '1', '0', [⟨'6', "880-01"⟩, ⟨'a', "Yasukuni Jinja :"⟩]⟩,
      ⟨"880", '1', '0', [⟨'6', "245-01/$1"⟩, ⟨'a', "靖國神社 :"⟩]⟩]

/-- A record with a data field that would be read as a control field. -/
def lowDataTag : Record := (blank defaultLeader).addField ⟨"008", ' ', ' ', [⟨'a', "jpn"⟩]⟩

/-- One entry with two keys, the greater one first, and no leader. -/
def bareEntry : Json :=
  .object [("fields", .array [.object [
    ("500", .object [("subfields", .array [.object [("aa", .text "Note")]])]),
    ("001", .text "558505")]])]

def noteRecord : Record :=
  .ofParts defaultLeader [("001", "558505")] [⟨"500", ' ', ' ', [⟨'a', "Note"⟩]⟩]

theorem ofMarcJson_toMarcJson_linkedTitles :
    ofMarcJson linkedTitles.toMarcJson = .ok linkedTitles ∧
    (∃ cause, ofMarcJson lowDataTag.toMarcJson = .error cause) ∧
    ofMarcJson bareEntry = .ok noteRecord ∧
    noteRecord.Exchangeable ∧ ofMarcJson noteRecord.toMarcJson = .ok noteRecord :=
  have hbare : ofMarcJson bareEntry = .ok noteRecord := rfl
  ⟨(ofMarcJson_toMarcJson linkedTitles).1 (by decide),
    (ofMarcJson_toMarcJson lowDataTag).2.1 (by decide), hbare,
    (ofMarcJson_toMarcJson noteRecord).2.2 bareEntry hbare⟩

end MarcHarvest.Record
