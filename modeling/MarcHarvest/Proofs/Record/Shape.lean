import MarcHarvest.Proofs.Json.Members
import MarcHarvest.Proofs.OrderedMap
import MarcHarvest.Proofs.Record.Exchange

/-!
# The shape of MARC-in-JSON

`IsMarcJson` is the documented shape of the exchange format, written down without the reader: an
object with an array of entries, each an object from tags to texts or to content with an array of
subfields. Reading accepts exactly this shape, keeps everything that a value of this shape holds in
the order of the document (`HoldsDocument`), and otherwise reports the first offence on the way
through the document (`DocumentFault`).

Every reader has one lemma that tells when it succeeds and with which errors it fails
(`decides_readSubfield` to `decides_ofMarcJson`); whether a member can be added does not depend on
the record so far, so these compose along the lists. What was read is an invariant over the members
read so far: one member extends it (`Holds.readMember`), and so does a whole document.
-/

namespace MarcHarvest.Record

/-! ## The shape -/

/-- An object all of whose members are good. -/
def IsObjectOf (Good : String × Json → Prop) (j : Json) : Prop :=
  ∃ written, j = .object written ∧ ∀ m ∈ Json.orderMembers written, Good m

/-- An object with an array of good items under a key. -/
def HasArray (key : String) (Good : Json → Prop) (j : Json) : Prop :=
  ∃ written items, j = .object written ∧ Json.lastValue? key written = some (.array items) ∧
    ∀ item ∈ items, Good item

/-- A key that is not empty, with a text. -/
def IsSubfield (m : String × Json) : Prop := m.1 ≠ "" ∧ ∃ text, m.2 = .text text

def IsContent (j : Json) : Prop := HasArray "subfields" (IsObjectOf IsSubfield) j

inductive IsMember : String × Json → Prop
  | control {tag text : String} (h : IsControlTag tag) : IsMember (tag, .text text)
  | data {tag : String} {j : Json} (h : IsDataTag tag) (hj : IsContent j) : IsMember (tag, j)

def IsMarcJson (j : Json) : Prop := HasArray "fields" (IsObjectOf IsMember) j

/-! ## Offences -/

/-- What is wrong with an object: it is none, or its first bad member is at fault. -/
inductive ObjectFault (notObject : RecordError) (Good : String × Json → Prop)
    (Fault : String × Json → RecordError → Prop) : Json → RecordError → Prop
  | notObject {j : Json} (h : ∀ written, j ≠ .object written) :
      ObjectFault notObject Good Fault j notObject
  | member {written : List (String × Json)} {cause : RecordError}
      (h : FirstFault Good Fault (Json.orderMembers written) cause) :
      ObjectFault notObject Good Fault (.object written) cause

/-- What is wrong with an object that has an array under a key: it is none, or it has no such array,
or the first bad item of the array is at fault. -/
inductive ArrayFault (notObject noArray : RecordError) (key : String) (Good : Json → Prop)
    (Fault : Json → RecordError → Prop) : Json → RecordError → Prop
  | notObject {j : Json} (h : ∀ written, j ≠ .object written) :
      ArrayFault notObject noArray key Good Fault j notObject
  | noArray {written : List (String × Json)}
      (h : ∀ items, Json.lastValue? key written ≠ some (.array items)) :
      ArrayFault notObject noArray key Good Fault (.object written) noArray
  | item {written : List (String × Json)} {items : List Json} {cause : RecordError}
      (harray : Json.lastValue? key written = some (.array items))
      (h : FirstFault Good Fault items cause) :
      ArrayFault notObject noArray key Good Fault (.object written) cause

def SubfieldFault (tag : String) (m : String × Json) (cause : RecordError) : Prop :=
  ¬ IsSubfield m ∧ cause = .invalidSubfield m.1 tag

def SubfieldsFault (tag : String) : Json → RecordError → Prop :=
  ObjectFault (.subfieldNotAnObject tag) IsSubfield (SubfieldFault tag)

def ContentFault (tag : String) : Json → RecordError → Prop :=
  ArrayFault (.fieldNotAnObject tag) (.missingSubfields tag) "subfields" (IsObjectOf IsSubfield)
    (SubfieldsFault tag)

inductive MemberFault : String × Json → RecordError → Prop
  | tag {tag : String} {j : Json} (h : tag.length ≠ 3) : MemberFault (tag, j) (.invalidTag tag)
  | control {tag : String} {j : Json} (h : IsControlTag tag) (hj : ∀ text, j ≠ .text text) :
      MemberFault (tag, j) (.controlNotText tag)
  | data {tag : String} {j : Json} {cause : RecordError} (h : IsDataTag tag)
      (hj : ContentFault tag j cause) : MemberFault (tag, j) cause

def EntryFault : Json → RecordError → Prop := ObjectFault .entryNotAnObject IsMember MemberFault

def DocumentFault : Json → RecordError → Prop :=
  ArrayFault .notAnObject .missingFields "fields" (IsObjectOf IsMember) EntryFault

/-! ## Contents -/

/-- The members of the objects among some items, in the order of the document. -/
def allMembers (items : List Json) : List (String × Json) :=
  items.flatMap fun j => j.orderedMembers?.getD []

/-- The first character of the text under a key, or a blank. -/
def indicatorOf (key : String) (written : List (String × Json)) : Char :=
  match Json.lastValue? key written with
  | some (.text text) => text.toList.headD ' '
  | _ => ' '

/-- The text under the key of the leader, or the default leader. -/
def leaderOf (written : List (String × Json)) : String :=
  match Json.lastValue? "leader" written with
  | some (.text text) => text
  | _ => defaultLeader

/-- Whether a member of an object of subfields is this subfield. -/
structure HoldsSubfield (m : String × Json) (s : Subfield) : Prop where
  code : m.1.toList.head? = some s.code
  value : m.2 = .text s.value

/-- Whether a member of an entry is this data field. -/
structure HoldsField (m : String × Json) (f : Field) : Prop where
  tag : f.tag = m.1
  content : ∃ written items, m.2 = .object written ∧
    Json.lastValue? "subfields" written = some (.array items) ∧
    f.ind1 = indicatorOf "ind1" written ∧ f.ind2 = indicatorOf "ind2" written ∧
    List.Forall₂ HoldsSubfield (allMembers items) f.subfields

/-- Whether a record is made of a leader and the members of entries. -/
structure Holds (leader : String) (members : List (String × Json)) (r : Record) : Prop where
  leader_eq : r.leader = leader
  /-- The data fields are the members with the tag of one, in order. -/
  fields : List.Forall₂ HoldsField (members.filter fun m => IsDataTag m.1) r.fields
  /-- The control tags are those of members. -/
  mem_keys : ∀ tag, tag ∈ r.control.keys ↔ IsControlTag tag ∧ tag ∈ members.map Prod.fst
  /-- They stand in the order in which they first come. -/
  pairwise_keys : r.control.keys.Pairwise fun s t =>
    (members.map Prod.fst).idxOf s < (members.map Prod.fst).idxOf t
  /-- Each has its last payload. -/
  control?_eq : ∀ tag value, r.control? tag = some value ↔
    IsControlTag tag ∧ Json.lastValue? tag members = some (.text value)

/-- Whether a record is what a document holds. -/
def HoldsDocument (j : Json) (r : Record) : Prop :=
  ∃ written entries, j = .object written ∧
    Json.lastValue? "fields" written = some (.array entries) ∧
    Holds (leaderOf written) (allMembers entries) r

/-! ## Objects and arrays -/

section Objects

variable {α : Type} {j : Json} {notObject noArray : RecordError}

theorem orderedMembers?_eq_some_iff {members : List (String × Json)} :
    j.orderedMembers? = some members ↔
      ∃ written, j = .object written ∧ Json.orderMembers written = members := by
  cases j <;> simp [Json.orderedMembers?, Json.members?]

theorem orderedMembers?_eq_none_iff :
    j.orderedMembers? = none ↔ ∀ written, j ≠ .object written := by
  cases j <;> simp [Json.orderedMembers?, Json.members?]

theorem items?_eq_some_iff {items : List Json} : j.items? = some items ↔ j = .array items := by
  cases j <;> simp [Json.items?]

theorem text?_eq_some_iff {text : String} : j.text? = some text ↔ j = .text text := by
  cases j <;> simp [Json.text?]

theorem decides_object {Good : String × Json → Prop} {Fault : String × Json → RecordError → Prop}
    {x : Except RecordError α} {read : List (String × Json) → Except RecordError α}
    (hnone : j.orderedMembers? = none → x = .error notObject)
    (hsome : ∀ members, j.orderedMembers? = some members → x = read members)
    (hread : ∀ members,
      Decides (read members) (∀ m ∈ members, Good m) (FirstFault Good Fault members)) :
    Decides x (IsObjectOf Good j) (ObjectFault notObject Good Fault j) := by
  cases hj : j.orderedMembers? with
  | none =>
    rw [hnone hj]
    rw [orderedMembers?_eq_none_iff] at hj
    refine .of_error ?_ fun cause => ⟨?_, ?_⟩
    · rintro ⟨written, h, -⟩
      exact hj written h
    · rintro (_ | _)
      · rfl
      · exact absurd rfl (hj _)
    · rintro rfl
      exact .notObject hj
  | some members =>
    rw [hsome members hj]
    obtain ⟨written, rfl, rfl⟩ := orderedMembers?_eq_some_iff.mp hj
    refine (hread _).congr ⟨fun h => ⟨written, rfl, h⟩, ?_⟩ fun cause => ⟨.member, ?_⟩
    · rintro ⟨_, h, hgood⟩
      cases h
      exact hgood
    · rintro (h | h)
      · exact absurd rfl (h written)
      · exact h

theorem decides_array {Good : Json → Prop} {Fault : Json → RecordError → Prop} {key : String}
    {x : Except RecordError α} {read : List (String × Json) → List Json → Except RecordError α}
    (hnone : j.orderedMembers? = none → x = .error notObject)
    (hno : ∀ members, j.orderedMembers? = some members →
      (Json.lookup? key members).bind Json.items? = none → x = .error noArray)
    (hsome : ∀ members items, j.orderedMembers? = some members →
      (Json.lookup? key members).bind Json.items? = some items → x = read members items)
    (hread : ∀ members items,
      Decides (read members items) (∀ item ∈ items, Good item) (FirstFault Good Fault items)) :
    Decides x (HasArray key Good j) (ArrayFault notObject noArray key Good Fault j) := by
  cases hj : j.orderedMembers? with
  | none =>
    rw [hnone hj]
    rw [orderedMembers?_eq_none_iff] at hj
    refine .of_error ?_ fun cause => ⟨?_, ?_⟩
    · rintro ⟨written, items, h, -⟩
      exact hj written h
    · rintro (_ | _ | _)
      · rfl
      · exact absurd rfl (hj _)
      · exact absurd rfl (hj _)
    · rintro rfl
      exact .notObject hj
  | some members =>
    have hno := hno members hj
    have hsome := hsome members
    obtain ⟨written, rfl, rfl⟩ := orderedMembers?_eq_some_iff.mp hj
    have harray : ∀ items, (Json.lookup? key (Json.orderMembers written)).bind Json.items? =
        some items ↔ Json.lastValue? key written = some (.array items) := fun items => by
      rw [Json.lookup?_orderMembers, Option.bind_eq_some_iff]
      simp only [items?_eq_some_iff, exists_eq_right]
    cases hitems : (Json.lookup? key (Json.orderMembers written)).bind Json.items? with
    | none =>
      have hmissing : ∀ items, Json.lastValue? key written ≠ some (.array items) := by
        intro items h
        rw [(harray items).mpr h] at hitems
        cases hitems
      rw [hno hitems]
      refine .of_error ?_ fun cause => ⟨?_, ?_⟩
      · rintro ⟨_, items, h, hmember, -⟩
        cases h
        exact hmissing items hmember
      · rintro (h | _ | ⟨hmember, -⟩)
        · exact absurd rfl (h written)
        · rfl
        · exact absurd hmember (hmissing _)
      · rintro rfl
        exact .noArray hmissing
    | some items =>
      have hmember := (harray items).mp hitems
      rw [hsome items hj hitems]
      refine (hread _ items).congr ⟨fun h => ⟨written, items, rfl, hmember, h⟩, ?_⟩ fun cause =>
        ⟨.item hmember, ?_⟩
      · rintro ⟨_, items', h, hmember', hgood⟩
        cases h
        rw [hmember] at hmember'
        cases hmember'
        exact hgood
      · rintro (h | h | ⟨hmember', h⟩)
        · exact absurd rfl (h written)
        · exact absurd hmember (h items)
        · rw [hmember] at hmember'
          cases hmember'
          exact h

end Objects

/-! ## When reading succeeds -/

theorem decides_readSubfield (tag : String) (m : String × Json) :
    Decides (readSubfield tag m) (IsSubfield m) (SubfieldFault tag m) := by
  unfold readSubfield
  split
  · next code rest text hkey htext =>
    have hsubfield : IsSubfield m := by
      refine ⟨fun hempty => ?_, text, htext⟩
      rw [hempty] at hkey
      cases hkey
    exact .of_ok hsubfield fun cause h => h.1 hsubfield
  · next hno =>
    have hsubfield : ¬ IsSubfield m := by
      rintro ⟨hkey, text, htext⟩
      cases hlist : m.1.toList with
      | nil => exact hkey (String.toList_eq_nil_iff.mp hlist)
      | cons code rest => exact hno code rest text hlist htext
    exact .of_error hsubfield fun cause => and_iff_right hsubfield

theorem decides_readSubfields (tag : String) (j : Json) :
    Decides (readSubfields tag j) (IsObjectOf IsSubfield j) (SubfieldsFault tag j) := by
  refine decides_object (fun h => ?_) (fun members h => ?_)
    (Decides.mapM (decides_readSubfield tag))
  · rw [readSubfields, h]
  · rw [readSubfields, h]

theorem decides_readField (tag : String) (j : Json) :
    Decides (readField tag j) (IsContent j) (ContentFault tag j) := by
  refine decides_array (fun h => ?_) (fun members h hitems => ?_)
    (fun members items h hitems => ?_) fun members items =>
      (Decides.mapM (decides_readSubfields tag) items).map fun subfields =>
        ⟨tag, readIndicator "ind1" members, readIndicator "ind2" members, subfields.flatten⟩
  · rw [readField, h]
  · rw [readField, h]
    simp only
    rw [hitems]
  · rw [readField, h]
    simp only
    rw [hitems]
    rfl

theorem decides_readMember (r : Record) (m : String × Json) :
    Decides (readMember r m) (IsMember m) (MemberFault m) := by
  obtain ⟨tag, j⟩ := m
  obtain hc | hd | hlength := tag_cases tag
  · have hnotData : ¬ IsDataTag tag := fun h => h.2 hc.2
    by_cases hj : ∃ text, j = .text text
    · obtain ⟨text, rfl⟩ := hj
      rw [readMember_text hc]
      refine .of_ok (.control hc) ?_
      rintro _ (h | ⟨-, h⟩ | ⟨h, -⟩)
      · exact h hc.1
      · exact h text rfl
      · exact hnotData h
    · have hj' : ∀ text, j ≠ .text text := fun text h => hj ⟨text, h⟩
      have hnone : j.text? = none :=
        Option.eq_none_iff_forall_ne_some.mpr fun text h => hj' text (text?_eq_some_iff.mp h)
      rw [readMember_not_text hc r hnone]
      refine .of_error ?_ fun cause => ⟨?_, ?_⟩
      · rintro (_ | ⟨h, -⟩)
        · exact hj' _ rfl
        · exact hnotData h
      · rintro (h | _ | ⟨h, -⟩)
        · exact absurd hc.1 h
        · rfl
        · exact absurd h hnotData
      · rintro rfl
        exact .control hc hj'
  · have hnotControl : ¬ IsControlTag tag := fun h => hd.2 h.2
    rw [readMember_of_isDataTag hd]
    refine ((decides_readField tag j).map r.addField).congr ⟨.data hd, ?_⟩ fun cause =>
      ⟨.data hd, ?_⟩
    · rintro (h | ⟨-, h⟩)
      · exact absurd h hnotControl
      · exact h
    · rintro (h | ⟨h, -⟩ | ⟨-, h⟩)
      · exact absurd hd.1 h
      · exact absurd h hnotControl
      · exact h
  · rw [readMember_of_length_ne hlength]
    refine .of_error ?_ fun cause => ⟨?_, ?_⟩
    · rintro (h | ⟨h, -⟩) <;> exact hlength h.1
    · rintro (_ | ⟨h, -⟩ | ⟨h, -⟩)
      · rfl
      · exact absurd h.1 hlength
      · exact absurd h.1 hlength
    · rintro rfl
      exact .tag hlength

theorem decides_readEntry (r : Record) (entry : Json) :
    Decides (readEntry r entry) (IsObjectOf IsMember entry) (EntryFault entry) := by
  refine decides_object (fun h => ?_) (fun members h => ?_) fun members =>
    Decides.foldlM decides_readMember members r
  · rw [readEntry, h]
  · rw [readEntry, h]

theorem decides_ofMarcJson (j : Json) :
    Decides (ofMarcJson j) (IsMarcJson j) (DocumentFault j) := by
  refine decides_array (fun h => ?_) (fun members h hitems => ?_)
    (fun members items h hitems => ?_) fun members items =>
      Decides.foldlM decides_readEntry items
        (blank (((Json.lookup? "leader" members).bind Json.text?).getD defaultLeader))
  · rw [ofMarcJson, h]
  · rw [ofMarcJson, h]
    simp only
    rw [hitems]
  · rw [ofMarcJson, h]
    simp only
    rw [hitems]

/-! ## What reading keeps -/

theorem readIndicator_orderMembers (key : String) (written : List (String × Json)) :
    readIndicator key (Json.orderMembers written) = indicatorOf key written := by
  rw [readIndicator, Json.lookup?_orderMembers, indicatorOf]
  cases Json.lastValue? key written with
  | none => rfl
  | some value =>
    cases value with
    | text text => simp [Json.text?, List.headD_eq_head?_getD]
    | _ => rfl

theorem leader_orderMembers (written : List (String × Json)) :
    ((Json.lookup? "leader" (Json.orderMembers written)).bind Json.text?).getD defaultLeader =
      leaderOf written := by
  rw [Json.lookup?_orderMembers, leaderOf]
  cases Json.lastValue? "leader" written with
  | none => rfl
  | some value => cases value <;> rfl

theorem holdsSubfield_of_readSubfield {tag : String} {m : String × Json} {s : Subfield}
    (h : readSubfield tag m = .ok s) : HoldsSubfield m s := by
  unfold readSubfield at h
  split at h
  · next code rest value hkey hvalue =>
    cases h
    exact ⟨by rw [hkey]; rfl, hvalue⟩
  · cases h

theorem forall₂_of_readSubfields {tag : String} {j : Json} {l : List Subfield}
    (h : readSubfields tag j = .ok l) :
    List.Forall₂ HoldsSubfield (j.orderedMembers?.getD []) l := by
  unfold readSubfields at h
  split at h
  · next members hmembers =>
    rw [hmembers, Option.getD_some]
    exact (forall₂_of_mapM_eq_ok h).imp fun _ _ => holdsSubfield_of_readSubfield
  · cases h

theorem holdsField_of_readField {tag : String} {j : Json} {f : Field}
    (h : readField tag j = .ok f) : HoldsField (tag, j) f := by
  unfold readField at h
  split at h
  · cases h
  · next members hmembers =>
    obtain ⟨written, rfl, rfl⟩ := orderedMembers?_eq_some_iff.mp hmembers
    split at h
    · cases h
    · next items hitems =>
      obtain ⟨subfields, hsubfields, h⟩ := exists_of_bind_eq_ok h
      cases h
      rw [Json.lookup?_orderMembers, Option.bind_eq_some_iff] at hitems
      obtain ⟨array, harray, hitems⟩ := hitems
      obtain rfl := items?_eq_some_iff.mp hitems
      have hall : List.Forall₂ HoldsSubfield (allMembers items) subfields.flatten := by
        rw [allMembers, List.flatMap_def]
        refine List.rel_flatten (List.forall₂_map_left_iff.mpr ?_)
        exact (forall₂_of_mapM_eq_ok hsubfields).imp fun _ _ => forall₂_of_readSubfields
      exact ⟨rfl, written, items, rfl, harray, readIndicator_orderMembers ..,
        readIndicator_orderMembers .., hall⟩

theorem holds_blank (leader : String) : Holds leader [] (blank leader) where
  leader_eq := rfl
  fields := .nil
  mem_keys tag := ⟨fun h => absurd h List.not_mem_nil, fun h => absurd h.2 List.not_mem_nil⟩
  pairwise_keys := List.Pairwise.nil
  control?_eq tag value := ⟨fun h => (by cases h), fun h => (by cases h.2)⟩

section step

variable {leader tag : String} {members : List (String × Json)} {r : Record}

theorem Holds.mem_tags (h : Holds leader members r) :
    ∀ key ∈ r.control.keys, key ∈ members.map Prod.fst := fun key hkey =>
  ((h.mem_keys key).mp hkey).2

theorem Holds.addControl (h : Holds leader members r) (htag : IsControlTag tag) (value : String) :
    Holds leader (members ++ [(tag, .text value)]) (r.addControl tag value) where
  leader_eq := h.leader_eq
  fields := by
    have hdata : ¬ IsDataTag tag := fun hd => hd.2 htag.2
    rw [List.filter_append, List.filter_cons_of_neg (by simpa using hdata), List.filter_nil,
      List.append_nil]
    exact h.fields
  mem_keys t := by
    rw [List.map_append, List.mem_append, List.map_singleton, List.mem_singleton, and_or_left,
      ← h.mem_keys]
    refine OrderedMap.mem_keys_insert.trans (or_congr_right ⟨?_, And.right⟩)
    rintro rfl
    exact ⟨htag, rfl⟩
  pairwise_keys := by
    rw [List.map_append, List.map_singleton]
    exact OrderedMap.pairwise_keys_insert h.mem_tags (fun hmem => (h.mem_keys tag).mpr ⟨htag, hmem⟩)
      h.pairwise_keys value
  control?_eq t v := by
    rw [Json.lastValue?_append_singleton]
    change (r.control.insert tag value).get? t = some v ↔ _
    rw [OrderedMap.get?_insert]
    by_cases ht : tag = t
    · subst ht
      rw [if_pos rfl, if_pos rfl, Option.some.injEq, Option.some.injEq, Json.text.injEq]
      exact (and_iff_right htag).symm
    · rw [if_neg ht, if_neg ht]
      exact h.control?_eq t v

theorem Holds.addField (h : Holds leader members r) (htag : IsDataTag tag) {j : Json} {f : Field}
    (hf : HoldsField (tag, j) f) : Holds leader (members ++ [(tag, j)]) (r.addField f) where
  leader_eq := h.leader_eq
  fields := by
    rw [List.filter_append, List.filter_cons_of_pos (by simpa using htag), List.filter_nil]
    exact List.rel_append h.fields (.cons hf .nil)
  mem_keys t := by
    rw [List.map_append, List.mem_append, List.map_singleton, List.mem_singleton, and_or_left,
      ← h.mem_keys]
    refine ⟨Or.inl, ?_⟩
    rintro (hkey | ⟨hcontrol, rfl⟩)
    · exact hkey
    · exact absurd hcontrol.2 htag.2
  pairwise_keys := by
    rw [List.map_append, List.map_singleton]
    exact OrderedMap.pairwise_idxOf_append h.mem_tags h.pairwise_keys tag
  control?_eq t v := by
    rw [Json.lastValue?_append_singleton]
    by_cases ht : tag = t
    · subst ht
      have hcontrol : ¬ IsControlTag tag := fun hc => htag.2 hc.2
      have hold := (h.control?_eq tag v).not.mpr fun hc => hcontrol hc.1
      exact ⟨fun hv => absurd hv hold, fun hc => absurd hc.1 hcontrol⟩
    · rw [if_neg ht]
      exact h.control?_eq t v

theorem Holds.readMember (h : Holds leader members r) {m : String × Json} {s : Record}
    (hread : readMember r m = .ok s) : Holds leader (members ++ [m]) s := by
  obtain ⟨tag, j⟩ := m
  have hmember := (decides_readMember r (tag, j)).ok.mp ⟨s, hread⟩
  cases hmember with
  | control htag =>
    rw [readMember_text htag] at hread
    cases hread
    exact h.addControl htag _
  | data htag =>
    rw [readMember_of_isDataTag htag] at hread
    obtain ⟨f, hf, rfl⟩ := exists_of_map_eq_ok hread
    exact h.addField htag (holdsField_of_readField hf)

theorem Holds.readEntry (h : Holds leader members r) {j : Json} {s : Record}
    (hread : readEntry r j = .ok s) : Holds leader (members ++ j.orderedMembers?.getD []) s := by
  unfold Record.readEntry at hread
  split at hread
  · next written hwritten =>
    rw [hwritten, Option.getD_some, ← List.flatMap_singleton' written]
    exact foldlM_accumulates (fun _ _ _ _ h hm => h.readMember hm) h hread
  · cases hread

end step

theorem holdsDocument_of_ofMarcJson {j : Json} {r : Record} (h : ofMarcJson j = .ok r) :
    HoldsDocument j r := by
  unfold ofMarcJson at h
  split at h
  · cases h
  · next members hmembers =>
    obtain ⟨written, rfl, rfl⟩ := orderedMembers?_eq_some_iff.mp hmembers
    simp only at h
    split at h
    · cases h
    · next entries hentries =>
      rw [Json.lookup?_orderMembers, Option.bind_eq_some_iff] at hentries
      obtain ⟨array, harray, hentries⟩ := hentries
      obtain rfl := items?_eq_some_iff.mp hentries
      rw [leader_orderMembers] at h
      exact ⟨written, entries, rfl, harray,
        foldlM_accumulates (fun _ _ _ _ h he => h.readEntry he) (holds_blank _) h⟩

/-- **Reading accepts the documented shape.** It succeeds on documents of this shape and no others,
the record is what the document holds, and an error is that of the first offence. Objects count as
maps with their keys in the order of code points. -/
theorem ofMarcJson_accepts (j : Json) :
    (∀ written, Json.IsMapOf written (Json.orderMembers written)) ∧
    ((∃ r, ofMarcJson j = .ok r) ↔ IsMarcJson j) ∧
    (∀ r, ofMarcJson j = .ok r → HoldsDocument j r) ∧
    ∀ cause, ofMarcJson j = .error cause ↔ DocumentFault j cause := by
  have hdecides := decides_ofMarcJson j
  exact ⟨Json.isMapOf_orderMembers, hdecides.ok, fun r => holdsDocument_of_ofMarcJson,
    hdecides.error⟩

end MarcHarvest.Record
