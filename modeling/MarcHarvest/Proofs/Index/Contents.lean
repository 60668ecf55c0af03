import Mathlib.Data.List.Nodup
import MarcHarvest.Index.Basic
import MarcHarvest.Proofs.StableSort

/-!
# What an index holds

`placedFields` lists the data fields of interest with their numbers and `placedControls` the control
fields that count, one for each tag. An index built from a record answers every look-up with a part
of these lists: `directFields_build`, `linkedFields_build`, `controlField?_build` and
`directFieldsWhere_build`.
-/

namespace MarcHarvest

/-! ## Origins -/

theorem Origin.isOrder : StableSort.IsOrder Origin.le where
  trans := by
    rintro (a | a) (b | b) (c | c) hab hbc <;> simp [Origin.le] at hab hbc ⊢ <;> omega
  total := by
    rintro (a | a) (b | b) <;> simp [Origin.le, Nat.le_total]
  antisymm := by
    rintro (a | a) (b | b) hab hba <;> simp [Origin.le] at hab hba ⊢ <;> omega

theorem Origin.data_ascends {m n : Nat} (h : m < n) :
    (data m).le (data n) ∧ data m ≠ data n := by
  simp only [le, decide_eq_true_eq, ne_eq, data.injEq]
  omega

theorem Origin.control_ascends {m n : Nat} (h : m < n) :
    (control m).le (control n) ∧ control m ≠ control n := by
  simp only [le, decide_eq_true_eq, ne_eq, control.injEq]
  omega

theorem pairwise_snd_zipIdx {α : Type} (l : List α) (n : Nat) :
    (l.zipIdx n).Pairwise fun a b => a.2 < b.2 := by
  have hrange : ((l.zipIdx n).map Prod.snd).Pairwise (· < ·) := by
    rw [List.zipIdx_map_snd]
    exact List.pairwise_lt_range'
  exact List.pairwise_map.mp hrange

/-! ## The last entry of a key -/

/-- Of the entries with the same key only the last, where it stands. -/
def keepLast {β : Type} : List (String × β) → List (String × β)
  | [] => []
  | e :: rest => if rest.any fun x => x.1 == e.1 then keepLast rest else e :: keepLast rest

section keepLast

variable {β γ : Type}

theorem keepLast_sublist (l : List (String × β)) : (keepLast l).Sublist l := by
  induction l with
  | nil => exact List.Sublist.slnil
  | cons e rest ih =>
    rw [keepLast]
    split
    · exact ih.cons e
    · exact ih.cons_cons e

theorem mem_keys_keepLast {l : List (String × β)} {k : String} :
    k ∈ (keepLast l).map Prod.fst ↔ k ∈ l.map Prod.fst := by
  induction l with
  | nil => rfl
  | cons e rest ih =>
    rw [keepLast]
    split
    · next h =>
      have he : e.1 ∈ rest.map Prod.fst := by
        obtain ⟨x, hx, hxe⟩ := List.any_eq_true.mp h
        exact List.mem_map.mpr ⟨x, hx, by simpa using hxe⟩
      rw [ih, List.map_cons, List.mem_cons]
      exact ⟨Or.inr, fun hk => hk.elim (fun hk => hk ▸ he) id⟩
    · rw [List.map_cons, List.map_cons, List.mem_cons, List.mem_cons, ih]

theorem nodup_keys_keepLast (l : List (String × β)) : ((keepLast l).map Prod.fst).Nodup := by
  induction l with
  | nil => exact List.nodup_nil
  | cons e rest ih =>
    rw [keepLast]
    split
    · exact ih
    · next h =>
      rw [List.map_cons, List.nodup_cons, mem_keys_keepLast]
      refine ⟨fun he => h ?_, ih⟩
      obtain ⟨x, hx, hxe⟩ := List.mem_map.mp he
      exact List.any_eq_true.mpr ⟨x, hx, by simpa using hxe⟩

theorem keepLast_eq_self {l : List (String × β)} (h : (l.map Prod.fst).Nodup) :
    keepLast l = l := by
  induction l with
  | nil => rfl
  | cons e rest ih =>
    obtain ⟨he, hrest⟩ := List.nodup_cons.mp h
    have hlast : ¬ rest.any fun x => x.1 == e.1 := by
      intro hany
      obtain ⟨x, hx, hxe⟩ := List.any_eq_true.mp hany
      exact he (List.mem_map.mpr ⟨x, hx, by simpa using hxe⟩)
    rw [keepLast, if_neg hlast, ih hrest]

theorem keepLast_map (g : β → γ) (l : List (String × β)) :
    keepLast (l.map fun e => (e.1, g e.2)) = (keepLast l).map fun e => (e.1, g e.2) := by
  induction l with
  | nil => rfl
  | cons e rest ih =>
    have hany : ((rest.map fun e => (e.1, g e.2)).any fun x => x.1 == e.1) =
        rest.any fun x => x.1 == e.1 := by
      rw [List.any_map]
      rfl
    rw [List.map_cons, keepLast, keepLast, hany, ih]
    split <;> rfl

/-- The kept entry of a key is the last one, so a look-up that prefers later entries finds it. -/
theorem find?_keepLast_cons (e : String × β) (rest : List (String × β)) (k : String) :
    (keepLast (e :: rest)).find? (fun x => x.1 = k) =
      ((keepLast rest).find? fun x => x.1 = k).or (if e.1 = k then some e else none) := by
  by_cases he : e.1 = k
  · subst he
    by_cases h : rest.any fun x => x.1 == e.1
    · have hfound : ((keepLast rest).find? fun x => decide (x.1 = e.1)).isSome := by
        rw [List.find?_isSome]
        obtain ⟨x, hx, hxe⟩ := List.any_eq_true.mp h
        have hmem : e.1 ∈ (keepLast rest).map Prod.fst :=
          mem_keys_keepLast.mpr (List.mem_map.mpr ⟨x, hx, by simpa using hxe⟩)
        obtain ⟨y, hy, hye⟩ := List.mem_map.mp hmem
        exact ⟨y, hy, by simpa using hye⟩
      rw [keepLast, if_pos h, Option.or_of_isSome hfound]
    · have hnone : ((keepLast rest).find? fun x => decide (x.1 = e.1)) = none := by
        rw [List.find?_eq_none]
        intro x hx hxe
        exact h (List.any_eq_true.mpr
          ⟨x, (keepLast_sublist rest).subset hx, by simpa using hxe⟩)
      rw [keepLast, if_neg h, hnone, List.find?_cons_of_pos (by simp), if_pos rfl, Option.none_or]
  · rw [if_neg he, Option.or_none, keepLast]
    split
    · rfl
    · rw [List.find?_cons_of_neg (by simpa using he)]

theorem find?_keepLast (l : List (String × β)) (k : String) :
    (keepLast l).find? (fun x => x.1 = k) = l.reverse.find? fun x => x.1 = k := by
  induction l with
  | nil => rfl
  | cons e rest ih =>
    rw [find?_keepLast_cons, ih, List.reverse_cons, List.find?_append]
    by_cases he : e.1 = k <;> simp [he]

end keepLast

namespace Index

/-! ## Data fields -/

/-- Fields with consecutive places, the first of them number `n`. -/
def place (n : Nat) (fields : List Field) : List PlacedField :=
  (fields.zipIdx n).map fun f => ⟨.data f.2, f.1⟩

/-- The data fields of interest with their places. -/
def placedFields (record : RecordView) (interest : Interest) : List PlacedField :=
  place 0 (record.fields.filter fun f => interest.contains f.tag)

@[simp] theorem place_nil (n : Nat) : place n [] = [] := rfl

@[simp] theorem place_cons (n : Nat) (f : Field) (rest : List Field) :
    place n (f :: rest) = ⟨.data n, f⟩ :: place (n + 1) rest := by
  simp [place]

@[simp] theorem map_field_place (n : Nat) (fields : List Field) :
    (place n fields).map PlacedField.field = fields := by
  induction fields generalizing n with
  | nil => rfl
  | cons f rest ih => rw [place_cons, List.map_cons, ih]

theorem map_field_placedFields (record : RecordView) (interest : Interest) :
    (placedFields record interest).map PlacedField.field =
      record.fields.filter fun f => interest.contains f.tag :=
  map_field_place ..

theorem map_field_filter_placedFields_of_interest (record : RecordView) (interest : Interest)
    (q : Field → Bool) :
    ((placedFields record interest).filter fun e => q e.field).map PlacedField.field =
      record.fields.filter fun f => q f && interest.contains f.tag := by
  have hcomp : (fun e : PlacedField => q e.field) = q ∘ PlacedField.field := rfl
  rw [hcomp, ← List.filter_map, map_field_placedFields, List.filter_filter]

/-- A condition that only fields of interest satisfy selects from the placed fields what it selects
from the record. -/
theorem map_field_filter_placedFields {record : RecordView} {interest : Interest}
    {q : Field → Bool} (hq : ∀ f, q f → interest.contains f.tag) :
    ((placedFields record interest).filter fun e => q e.field).map PlacedField.field =
      record.fields.filter q := by
  rw [map_field_filter_placedFields_of_interest]
  refine List.filter_congr fun f _ => ?_
  by_cases hf : q f
  · simp [hf, hq f hf]
  · simp [hf]

theorem exists_data_of_mem_place {n : Nat} {fields : List Field} {e : PlacedField}
    (he : e ∈ place n fields) : ∃ k, e.origin = .data k := by
  obtain ⟨f, -, rfl⟩ := List.mem_map.mp he
  exact ⟨f.2, rfl⟩

theorem pairwise_place (n : Nat) (fields : List Field) :
    (place n fields).Pairwise fun a b => a.origin.le b.origin ∧ a.origin ≠ b.origin := by
  rw [place, List.pairwise_map]
  exact (pairwise_snd_zipIdx fields n).imp Origin.data_ascends

theorem nodup_origin_placedFields (record : RecordView) (interest : Interest) :
    ((placedFields record interest).map PlacedField.origin).Nodup := by
  rw [List.Nodup, List.pairwise_map]
  exact (pairwise_place ..).imp fun h => h.2

/-! ## Filing -/

/-- Whether a field is filed directly under a tag. -/
def isDirect (t : String) (f : Field) : Bool := !f.isAlternate && f.tag == t

theorem isDirect_of_ne {t : String} (ht : t ≠ alternateTag) (f : Field) :
    isDirect t f = decide (f.tag = t) := by
  by_cases hf : f.tag = t
  · simp [isDirect, Field.isAlternate, hf, ht]
  · simp [isDirect, hf]

/-- Whether a field is filed under a tag to which it links. -/
def isLinked (interest : Interest) (t : String) (f : Field) : Bool :=
  f.isAlternate && linkedOfInterest? interest f == some t

theorem filed_direct_addField (interest : Interest) (index : Index) (n : Nat) (f : Field)
    (t : String) :
    filed (addField interest index n f).direct t =
      filed index.direct t ++ ([⟨.data n, f⟩] : List PlacedField).filter fun e => isDirect t e.field := by
  unfold addField
  by_cases ha : f.isAlternate
  · rw [if_pos ha]
    have hnot : isDirect t f = false := by simp [isDirect, ha]
    split <;> simp [hnot]
  · rw [if_neg ha, filed_file]
    by_cases ht : f.tag = t <;> simp [isDirect, ha, ht]

theorem filed_linked_addField (interest : Interest) (index : Index) (n : Nat) (f : Field)
    (t : String) :
    filed (addField interest index n f).linked t =
      filed index.linked t ++
        ([⟨.data n, f⟩] : List PlacedField).filter fun e => isLinked interest t e.field := by
  unfold addField
  by_cases ha : f.isAlternate
  · rw [if_pos ha]
    split
    · next tag htag =>
      rw [filed_file]
      by_cases ht : tag = t <;> simp [isLinked, ha, htag, ht]
    · next htag => simp [isLinked, htag]
  · rw [if_neg ha]
    simp [isLinked, ha]

theorem filed_direct_addFields (interest : Interest) (index : Index) (n : Nat) (fields : List Field)
    (t : String) :
    filed (addFields interest index n fields).direct t =
      filed index.direct t ++ (place n fields).filter fun e => isDirect t e.field := by
  induction fields generalizing index n with
  | nil => simp [addFields]
  | cons f rest ih =>
    rw [addFields, ih, filed_direct_addField, place_cons, List.append_assoc, ← List.filter_append,
      List.singleton_append]

theorem filed_linked_addFields (interest : Interest) (index : Index) (n : Nat) (fields : List Field)
    (t : String) :
    filed (addFields interest index n fields).linked t =
      filed index.linked t ++ (place n fields).filter fun e => isLinked interest t e.field := by
  induction fields generalizing index n with
  | nil => simp [addFields]
  | cons f rest ih =>
    rw [addFields, ih, filed_linked_addField, place_cons, List.append_assoc, ← List.filter_append,
      List.singleton_append]

@[simp] theorem direct_addControls (index : Index) (n : Nat) (l : List (String × String)) :
    (addControls index n l).direct = index.direct := by
  induction l generalizing index n with
  | nil => rfl
  | cons c rest ih => rw [addControls, ih]

@[simp] theorem linked_addControls (index : Index) (n : Nat) (l : List (String × String)) :
    (addControls index n l).linked = index.linked := by
  induction l generalizing index n with
  | nil => rfl
  | cons c rest ih => rw [addControls, ih]

@[simp] theorem control_addField (interest : Interest) (index : Index) (n : Nat) (f : Field) :
    (addField interest index n f).control = index.control := by
  unfold addField
  split
  · split <;> rfl
  · rfl

@[simp] theorem control_addFields (interest : Interest) (index : Index) (n : Nat)
    (fields : List Field) : (addFields interest index n fields).control = index.control := by
  induction fields generalizing index n with
  | nil => rfl
  | cons f rest ih => rw [addFields, ih, control_addField]

theorem direct_build (record : RecordView) (interest : Interest) :
    (build record interest).direct =
      (addFields interest empty 0 (record.fields.filter fun f => interest.contains f.tag)).direct := by
  unfold build
  simp only
  split
  · rw [direct_addControls]
  · rfl

theorem linked_build (record : RecordView) (interest : Interest) :
    (build record interest).linked =
      (addFields interest empty 0 (record.fields.filter fun f => interest.contains f.tag)).linked := by
  unfold build
  simp only
  split
  · rw [linked_addControls]
  · rfl

theorem directFields_build (record : RecordView) (interest : Interest) (t : String) :
    (build record interest).directFields t =
      (placedFields record interest).filter fun e => isDirect t e.field := by
  rw [directFields, direct_build, filed_direct_addFields]
  simp [empty, placedFields]

theorem linkedFields_build (record : RecordView) (interest : Interest) (t : String) :
    (build record interest).linkedFields t =
      (placedFields record interest).filter fun e => isLinked interest t e.field := by
  rw [linkedFields, linked_build, filed_linked_addFields]
  simp [empty, placedFields]

/-- The direct fields with a tag that an index holds, without their places. -/
def fieldsOf (index : Index) (t : String) : List Field :=
  (index.directFields t).map PlacedField.field

theorem fieldsOf_build {record : RecordView} {interest : Interest} {t : String}
    (ht : interest.contains t) :
    (build record interest).fieldsOf t = record.fields.filter (isDirect t) := by
  rw [fieldsOf, directFields_build, map_field_filter_placedFields]
  intro f hf
  simp only [isDirect, Bool.and_eq_true, beq_iff_eq] at hf
  rwa [hf.2]

/-! ## Direct fields of several tags -/

/-- Whether a field is filed directly under a tag that satisfies `p`. -/
def isDirectWhere (p : String → Bool) (f : Field) : Bool := !f.isAlternate && p f.tag

theorem mem_filed_iff {buckets : Std.HashMap String (Array PlacedField)} {t : String}
    {e : PlacedField} :
    e ∈ filed buckets t ↔ ∃ b, (t, b) ∈ buckets.toList ∧ e ∈ b.toList := by
  simp only [Std.HashMap.mem_toList_iff_getElem?_eq_some, filed, Std.HashMap.getD_eq_getD_getElem?]
  cases buckets[t]? <;> simp

theorem mem_directFields_build {record : RecordView} {interest : Interest} {t : String}
    {e : PlacedField} :
    e ∈ (build record interest).directFields t ↔
      e ∈ placedFields record interest ∧ !e.field.isAlternate ∧ e.field.tag = t := by
  rw [directFields_build, List.mem_filter]
  simp [isDirect]

theorem nodup_direct_build (record : RecordView) (interest : Interest) (p : String → Bool) :
    (((build record interest).direct.toList.filter fun b => p b.1).flatMap
      fun b => b.2.toList).Nodup := by
  rw [List.nodup_flatMap]
  have hbucket : ∀ b ∈ (build record interest).direct.toList,
      b.2.toList = (build record interest).directFields b.1 := by
    rintro ⟨t, b⟩ hb
    rw [Std.HashMap.mem_toList_iff_getElem?_eq_some] at hb
    rw [directFields, filed, Std.HashMap.getD_eq_getD_getElem?, hb, Option.getD_some]
  refine ⟨fun b hb => ?_, ?_⟩
  · rw [hbucket b (List.mem_of_mem_filter hb), directFields_build]
    exact ((nodup_origin_placedFields record interest).of_map _).filter _
  · refine List.Pairwise.imp_of_mem ?_ (Std.HashMap.distinct_keys_toList.filter _)
    intro a b ha hb hab
    -- a field in two buckets would have two tags
    have htag : ∀ c ∈ (build record interest).direct.toList, ∀ e ∈ c.2.toList,
        e.field.tag = c.1 := by
      intro c hc e he
      rw [hbucket c hc] at he
      exact (mem_directFields_build.mp he).2.2
    intro e hea heb
    have hta := htag a (List.mem_of_mem_filter ha) e hea
    have htb := htag b (List.mem_of_mem_filter hb) e heb
    exact absurd (hta.symm.trans htb) (by simpa using hab)

theorem perm_direct_build (record : RecordView) (interest : Interest) (p : String → Bool) :
    (((build record interest).direct.toList.filter fun b => p b.1).flatMap
      fun b => b.2.toList).Perm
        ((placedFields record interest).filter fun e => isDirectWhere p e.field) := by
  rw [List.perm_ext_iff_of_nodup (nodup_direct_build record interest p)
    (((nodup_origin_placedFields record interest).of_map _).filter _)]
  intro e
  simp only [List.mem_flatMap, List.mem_filter, isDirectWhere, Bool.and_eq_true]
  constructor
  · rintro ⟨⟨t, b⟩, ⟨hb, hp⟩, he⟩
    obtain ⟨hplaced, ha, rfl⟩ := mem_directFields_build.mp (mem_filed_iff.mpr ⟨b, hb, he⟩)
    exact ⟨hplaced, ha, hp⟩
  · rintro ⟨hplaced, ha, hp⟩
    obtain ⟨b, hb, he⟩ := mem_filed_iff.mp (mem_directFields_build.mpr ⟨hplaced, ha, rfl⟩)
    exact ⟨(e.field.tag, b), ⟨hb, hp⟩, he⟩

/-- Whatever the order in which they stand, direct fields that are sorted by their places are the
placed fields in record order. -/
theorem mergeSort_eq_filter_placedFields {record : RecordView} {interest : Interest}
    {q : Field → Bool} {l : List PlacedField}
    (h : l.Perm ((placedFields record interest).filter fun e => q e.field)) :
    (l.mergeSort fun a b => a.origin.le b.origin) =
      (placedFields record interest).filter fun e => q e.field := by
  have hsorted : ((placedFields record interest).filter fun e => q e.field).Pairwise
      fun a b => a.origin.le b.origin :=
    ((pairwise_place ..).filter _).imp fun h => h.1
  exact StableSort.mergeSort_eq_of_perm PlacedField.origin Origin.isOrder h hsorted
    ((nodup_origin_placedFields record interest).sublist (List.filter_sublist.map _))

/-- Merging the buckets gives the placed fields in record order. -/
theorem directFieldsWhere_build (record : RecordView) (interest : Interest) (p : String → Bool) :
    (build record interest).directFieldsWhere p =
      (placedFields record interest).filter fun e => isDirectWhere p e.field :=
  mergeSort_eq_filter_placedFields (perm_direct_build record interest p)

theorem map_field_directFieldsWhere_build {record : RecordView} {interest : Interest}
    {p : String → Bool} (hp : ∀ t, p t → interest.contains t) :
    ((build record interest).directFieldsWhere p).map PlacedField.field =
      record.fields.filter (isDirectWhere p) := by
  rw [directFieldsWhere_build, map_field_filter_placedFields]
  intro f hf
  simp only [isDirectWhere, Bool.and_eq_true] at hf
  exact hp f.tag hf.2

/-! ## Control fields -/

/-- Control fields with consecutive places, the first of them number `n`. -/
def placeControls (n : Nat) (l : List (String × String)) : List (String × PlacedControl) :=
  (l.zipIdx n).map fun c => (c.1.1, ⟨.control c.2, c.1.2⟩)

/-- The control fields that count, one for each tag, with their places. -/
def placedControls (record : RecordView) : List (String × PlacedControl) :=
  keepLast (placeControls 0 record.control)

theorem placeControls_cons (n : Nat) (tag value : String) (rest : List (String × String)) :
    placeControls n ((tag, value) :: rest) =
      (tag, ⟨.control n, value⟩) :: placeControls (n + 1) rest := by
  simp [placeControls]

theorem map_value_placeControls (n : Nat) (l : List (String × String)) :
    (placeControls n l).map (fun c => (c.1, c.2.value)) = l := by
  induction l generalizing n with
  | nil => rfl
  | cons c rest ih => rw [placeControls_cons, List.map_cons, ih]

theorem map_value_placedControls (record : RecordView) :
    (placedControls record).map (fun c => (c.1, c.2.value)) = keepLast record.control := by
  rw [placedControls, ← keepLast_map, map_value_placeControls]

theorem exists_control_of_mem_placeControls {n : Nat} {l : List (String × String)}
    {c : String × PlacedControl} (hc : c ∈ placeControls n l) : ∃ k, c.2.origin = .control k := by
  obtain ⟨d, -, rfl⟩ := List.mem_map.mp hc
  exact ⟨d.2, rfl⟩

theorem pairwise_placeControls (n : Nat) (l : List (String × String)) :
    (placeControls n l).Pairwise fun a b =>
      a.2.origin.le b.2.origin ∧ a.2.origin ≠ b.2.origin := by
  rw [placeControls, List.pairwise_map]
  exact (pairwise_snd_zipIdx l n).imp Origin.control_ascends

theorem nodup_origin_placedControls (record : RecordView) :
    ((placedControls record).map fun k => k.2.origin).Nodup := by
  rw [List.Nodup, List.pairwise_map]
  exact ((pairwise_placeControls ..).sublist (keepLast_sublist _)).imp fun h => h.2

theorem controlField?_addControls (index : Index) (n : Nat) (l : List (String × String))
    (t : String) :
    (addControls index n l).controlField? t =
      (((keepLast (placeControls n l)).find? fun c => c.1 = t).map Prod.snd).or
        (index.controlField? t) := by
  induction l generalizing index n with
  | nil => rfl
  | cons c rest ih =>
    obtain ⟨tag, value⟩ := c
    rw [addControls, ih, placeControls_cons, find?_keepLast_cons, Option.map_or, Option.or_assoc]
    congr 1
    rw [controlField?, controlField?, Std.HashMap.getElem?_insert]
    by_cases h : tag = t <;> simp [h]

/-- A look-up of a control field finds the one that counts for its tag. -/
theorem controlField?_build {record : RecordView} {interest : Interest} (h : interest.control)
    (t : String) :
    (build record interest).controlField? t =
      ((placedControls record).find? fun c => c.1 = t).map Prod.snd := by
  unfold build
  simp only
  rw [if_pos h, controlField?_addControls, controlField?, control_addFields]
  simp [empty, placedControls]

theorem map_value_controlField?_build {record : RecordView} {interest : Interest}
    (h : interest.control) (t : String) :
    ((build record interest).controlField? t).map PlacedControl.value =
      (record.control.reverse.find? fun c => c.1 = t).map Prod.snd := by
  rw [controlField?_build h, ← find?_keepLast, ← map_value_placedControls, List.find?_map,
    Option.map_map, Option.map_map]
  rfl

end Index

end MarcHarvest
