import MarcHarvest.Proofs.Index.Contents

/-!
# The invariant of an index

The data fields of interest are numbered in record order, fields in an alternate script included.
An index that is built from a record holds each of them at most once: a field with a tag of its own
in the bucket of this tag, a field in an alternate script in the bucket of the tag that it links to,
if that is of interest, and nowhere otherwise (`isIndexOf_build`).

`entries` lists everything that the buckets of an index hold, whether a look-up asks for it or not,
so what stands there about one number holds of the whole index. The proof reads a bucket off
`directFields_build` and `linkedFields_build`. A field belongs in one bucket only (`Belongs.unique`)
and has one number only, hence no two entries share an origin.
-/

namespace MarcHarvest

def Origin.Before (a b : Origin) : Prop := a.le b ∧ a ≠ b

/-- The interests that can be put together, one tag after the other. -/
inductive Interest.Collected : Interest → Prop
  | least : Collected .least
  | addTag {i : Interest} (h : Collected i) (tag : String) : Collected (i.addTag tag)
  | requireControl {i : Interest} (h : Collected i) : Collected i.requireControl

theorem Interest.Collected.contains_alternateTag {i : Interest} (h : i.Collected) :
    i.contains alternateTag := by
  induction h with
  | least => simp
  | addTag _ tag ih => simp [ih]
  | requireControl _ ih => simpa using ih

namespace Index

/-! ## Entries -/

/-- The buckets of an index: the fields with a tag, and the fields in an alternate script that link
to it. -/
inductive Slot where
  | direct (tag : String)
  | linked (tag : String)
  deriving Repr, DecidableEq

/-- What a look-up of a bucket finds. -/
def bucket (index : Index) : Slot → List PlacedField
  | .direct t => index.directFields t
  | .linked t => index.linkedFields t

/-- All entries of some buckets, each with the bucket in which it stands. -/
def entriesOf (slot : String → Slot) (buckets : Std.HashMap String (Array PlacedField)) :
    List (Slot × PlacedField) :=
  buckets.toList.flatMap fun b => b.2.toList.map fun e => (slot b.1, e)

/-- All that an index holds of data fields. -/
def entries (index : Index) : List (Slot × PlacedField) :=
  entriesOf .direct index.direct ++ entriesOf .linked index.linked

/-- The entries with number `n`, wherever they stand. -/
def occurrences (index : Index) (n : Nat) : List (Slot × PlacedField) :=
  index.entries.filter fun x => x.2.origin = .data n

theorem mem_entriesOf {slot : String → Slot} {buckets : Std.HashMap String (Array PlacedField)}
    {x : Slot × PlacedField} :
    x ∈ entriesOf slot buckets ↔ ∃ t, x.1 = slot t ∧ x.2 ∈ filed buckets t := by
  obtain ⟨s, e⟩ := x
  simp only [entriesOf, List.mem_flatMap, List.mem_map, mem_filed_iff]
  constructor
  · rintro ⟨⟨t, b⟩, hb, e', he, heq⟩
    obtain ⟨rfl, rfl⟩ := Prod.mk.inj heq
    exact ⟨t, rfl, b, hb, he⟩
  · rintro ⟨t, rfl, b, hb, he⟩
    exact ⟨(t, b), hb, e, he, rfl⟩

theorem mem_entries {index : Index} {s : Slot} {e : PlacedField} :
    (s, e) ∈ index.entries ↔ e ∈ index.bucket s := by
  rw [entries, List.mem_append, mem_entriesOf, mem_entriesOf]
  cases s with
  | direct t =>
    simp only [Slot.direct.injEq, reduceCtorEq, false_and, exists_false, or_false,
      exists_eq_left', bucket]
    rfl
  | linked t =>
    simp only [Slot.linked.injEq, reduceCtorEq, false_and, exists_false, false_or,
      exists_eq_left', bucket]
    rfl

theorem nodup_entriesOf {slot : String → Slot} (hslot : Function.Injective slot)
    {buckets : Std.HashMap String (Array PlacedField)} (h : ∀ t, (filed buckets t).Nodup) :
    (entriesOf slot buckets).Nodup := by
  rw [entriesOf, List.nodup_flatMap]
  refine ⟨?_, ?_⟩
  · rintro ⟨t, b⟩ hb
    have hfiled : filed buckets t = b.toList := by
      rw [Std.HashMap.mem_toList_iff_getElem?_eq_some] at hb
      rw [filed, Std.HashMap.getD_eq_getD_getElem?, hb, Option.getD_some]
    have hnodup : b.toList.Nodup := hfiled ▸ h t
    exact hnodup.map fun e e' he => (Prod.mk.inj he).2
  · refine Std.HashMap.distinct_keys_toList.imp ?_
    intro a b hab x hxa hxb
    -- an entry in both buckets would stand under both tags
    obtain ⟨e, -, rfl⟩ := List.mem_map.mp hxa
    obtain ⟨e', -, heq⟩ := List.mem_map.mp hxb
    have htag : b.1 = a.1 := hslot (Prod.mk.inj heq).1
    simp [htag] at hab

theorem nodup_entries {index : Index} (h : ∀ s, (index.bucket s).Nodup) : index.entries.Nodup := by
  have hdirect : (entriesOf .direct index.direct).Nodup :=
    nodup_entriesOf (fun _ _ => Slot.direct.inj) fun t => h (.direct t)
  have hlinked : (entriesOf .linked index.linked).Nodup :=
    nodup_entriesOf (fun _ _ => Slot.linked.inj) fun t => h (.linked t)
  rw [entries, List.nodup_append]
  refine ⟨hdirect, hlinked, ?_⟩
  intro x hx y hy hxy
  obtain ⟨t, ht, -⟩ := mem_entriesOf.mp hx
  obtain ⟨t', ht', -⟩ := mem_entriesOf.mp hy
  rw [hxy, ht'] at ht
  cases ht

/-! ## Where a field belongs -/

/-- The data fields of interest; the place in this list is the number of a field. -/
def numbered (record : RecordView) (interest : Interest) : List Field :=
  record.fields.filter fun f => interest.contains f.tag

/-- The bucket in which a field belongs, if there is one. -/
inductive Belongs (interest : Interest) (f : Field) : Slot → Prop
  | direct (h : f.tag ≠ alternateTag) : Belongs interest f (.direct f.tag)
  | linked {t : String} (h : f.tag = alternateTag) (hlink : f.linkedTag? = some t)
      (ht : interest.contains t) : Belongs interest f (.linked t)

theorem Belongs.unique {interest : Interest} {f : Field} {s s' : Slot}
    (h : Belongs interest f s) (h' : Belongs interest f s') : s = s' := by
  cases h with
  | direct ha =>
    cases h' with
    | direct => rfl
    | linked ha' => exact absurd ha' ha
  | linked ha hlink =>
    cases h' with
    | direct ha' => exact absurd ha ha'
    | linked _ hlink' =>
      rw [hlink] at hlink'
      rw [Option.some.inj hlink']

theorem isDirect_iff {interest : Interest} {f : Field} {t : String} :
    isDirect t f ↔ Belongs interest f (.direct t) := by
  rw [isDirect, Field.isAlternate, Bool.and_eq_true, Bool.not_eq_true', beq_eq_false_iff_ne,
    beq_iff_eq]
  constructor
  · rintro ⟨ha, rfl⟩
    exact .direct ha
  · rintro (ha | _)
    exact ⟨ha, rfl⟩

theorem isLinked_iff {interest : Interest} {f : Field} {t : String} :
    isLinked interest t f ↔ Belongs interest f (.linked t) := by
  rw [isLinked, Field.isAlternate, Bool.and_eq_true, beq_iff_eq, beq_iff_eq, linkedOfInterest?,
    Option.filter_eq_some_iff]
  constructor
  · rintro ⟨ha, hlink, ht⟩
    exact .linked ha hlink ht
  · rintro (_ | ⟨ha, hlink, ht⟩)
    exact ⟨ha, hlink, ht⟩

variable {record : RecordView} {interest : Interest}

theorem mem_placedFields_iff {e : PlacedField} :
    e ∈ placedFields record interest ↔
      ∃ k f, (numbered record interest)[k]? = some f ∧ e = ⟨.data k, f⟩ := by
  simp only [placedFields, place, List.mem_map, Prod.exists, List.mem_zipIdx_iff_getElem?]
  constructor
  · rintro ⟨f, k, hk, rfl⟩
    exact ⟨k, f, hk, rfl⟩
  · rintro ⟨k, f, hk, rfl⟩
    exact ⟨f, k, hk, rfl⟩

theorem mem_placedFields_of_getElem? {k : Nat} {f : Field}
    (hk : (numbered record interest)[k]? = some f) : ⟨.data k, f⟩ ∈ placedFields record interest :=
  mem_placedFields_iff.mpr ⟨k, f, hk, rfl⟩

theorem eq_of_mem_placedFields {e e' : PlacedField} (he : e ∈ placedFields record interest)
    (he' : e' ∈ placedFields record interest) (horigin : e.origin = e'.origin) : e = e' :=
  List.inj_on_of_nodup_map (nodup_origin_placedFields record interest) he he' horigin

/-! ## The buckets of a built index -/

theorem mem_bucket_build {s : Slot} {e : PlacedField} :
    e ∈ (build record interest).bucket s ↔
      e ∈ placedFields record interest ∧ Belongs interest e.field s := by
  cases s with
  | direct t => rw [bucket, directFields_build, List.mem_filter, isDirect_iff]
  | linked t => rw [bucket, linkedFields_build, List.mem_filter, isLinked_iff]

theorem mem_entries_build {x : Slot × PlacedField} :
    x ∈ (build record interest).entries ↔
      x.2 ∈ placedFields record interest ∧ Belongs interest x.2.field x.1 := by
  rw [← mem_bucket_build, ← mem_entries]

theorem pairwise_bucket_build (s : Slot) :
    ((build record interest).bucket s).Pairwise fun a b => a.origin.Before b.origin := by
  have hplaced : (placedFields record interest).Pairwise fun a b => a.origin.Before b.origin :=
    pairwise_place ..
  cases s with
  | direct t =>
    rw [bucket, directFields_build]
    exact hplaced.filter _
  | linked t =>
    rw [bucket, linkedFields_build]
    exact hplaced.filter _

theorem nodup_origin_entries_build :
    ((build record interest).entries.map fun x => x.2.origin).Nodup := by
  have hbuckets : ∀ s, ((build record interest).bucket s).Nodup := fun s =>
    (pairwise_bucket_build s).imp fun hab heq => hab.2 (congrArg PlacedField.origin heq)
  refine (nodup_entries hbuckets).map_on ?_
  rintro ⟨s, e⟩ hx ⟨s', e'⟩ hx' horigin
  obtain ⟨he, hs⟩ := mem_entries_build.mp hx
  obtain ⟨he', hs'⟩ := mem_entries_build.mp hx'
  -- the origin determines the field, and the field its bucket
  obtain rfl : e = e' := eq_of_mem_placedFields he he' horigin
  obtain rfl : s = s' := hs.unique hs'
  rfl

/-- A field that belongs in a bucket occurs once in the whole index, in this bucket. -/
theorem occurrences_of_belongs {k : Nat} {f : Field} {s : Slot}
    (hk : (numbered record interest)[k]? = some f) (hs : Belongs interest f s) :
    (build record interest).occurrences k = [(s, ⟨.data k, f⟩)] := by
  have hmem : (s, ⟨.data k, f⟩) ∈ (build record interest).entries :=
    mem_entries_build.mpr ⟨mem_placedFields_of_getElem? hk, hs⟩
  exact StableSort.filter_eq_singleton _ nodup_origin_entries_build hmem

theorem occurrences_of_not_belongs {k : Nat} {f : Field}
    (hk : (numbered record interest)[k]? = some f) (hs : ∀ s, ¬ Belongs interest f s) :
    (build record interest).occurrences k = [] := by
  rw [occurrences, List.filter_eq_nil_iff]
  rintro ⟨s, e⟩ hx horigin
  obtain ⟨he, hbelongs⟩ := mem_entries_build.mp hx
  obtain rfl : e = ⟨.data k, f⟩ :=
    eq_of_mem_placedFields he (mem_placedFields_of_getElem? hk) (of_decide_eq_true horigin)
  exact hs s hbelongs

/-! ## Control fields -/

theorem mem_keepLast_placeControls {n : Nat} {l : List (String × String)} {t : String}
    {c : PlacedControl} :
    (t, c) ∈ keepLast (placeControls n l) ↔
      ∃ before after, l = before ++ (t, c.value) :: after ∧ (∀ x ∈ after, x.1 ≠ t) ∧
        c.origin = .control (n + before.length) := by
  induction l generalizing n with
  | nil => simp [placeControls, keepLast]
  | cons d rest ih =>
    obtain ⟨tag, value⟩ := d
    have hany : ((placeControls (n + 1) rest).any fun x => x.1 == tag) ↔ ∃ x ∈ rest, x.1 = tag := by
      conv_rhs => rw [← map_value_placeControls (n + 1) rest]
      simp
    have hlater : ∀ before : List (String × String),
        n + 1 + before.length = n + ((tag, value) :: before).length := fun before => by
      rw [List.length_cons]; omega
    rw [placeControls_cons, keepLast]
    split
    · next h =>
      rw [ih]
      constructor
      · rintro ⟨before, after, rfl, hafter, horigin⟩
        exact ⟨(tag, value) :: before, after, rfl, hafter, hlater before ▸ horigin⟩
      · rintro ⟨before, after, hl, hafter, horigin⟩
        cases before with
        | nil =>
          -- the first control field is not kept, since its tag comes again
          obtain ⟨hd, rfl⟩ := List.cons.inj hl
          obtain ⟨rfl, -⟩ := Prod.mk.inj hd
          obtain ⟨x, hx, hxt⟩ := hany.mp h
          exact absurd hxt (hafter x hx)
        | cons d before =>
          obtain ⟨rfl, rfl⟩ := List.cons.inj hl
          exact ⟨before, after, rfl, hafter, (hlater before).symm ▸ horigin⟩
    · next h =>
      rw [List.mem_cons, ih]
      constructor
      · rintro (heq | ⟨before, after, rfl, hafter, horigin⟩)
        · obtain ⟨rfl, rfl⟩ := Prod.mk.inj heq
          exact ⟨[], rest, rfl, fun x hx hxt => h (hany.mpr ⟨x, hx, hxt⟩), rfl⟩
        · exact ⟨(tag, value) :: before, after, rfl, hafter, hlater before ▸ horigin⟩
      · rintro ⟨before, after, hl, hafter, horigin⟩
        cases before with
        | nil =>
          obtain ⟨hd, rfl⟩ := List.cons.inj hl
          obtain ⟨rfl, rfl⟩ := Prod.mk.inj hd
          obtain ⟨origin, value⟩ := c
          obtain rfl : origin = .control n := horigin
          exact Or.inl rfl
        | cons d before =>
          obtain ⟨rfl, rfl⟩ := List.cons.inj hl
          exact Or.inr ⟨before, after, rfl, hafter, (hlater before).symm ▸ horigin⟩

theorem controlField?_build_eq_some_iff {t : String} {c : PlacedControl} :
    (build record interest).controlField? t = some c ↔
      interest.control ∧ ∃ before after, record.control = before ++ (t, c.value) :: after ∧
        (∀ x ∈ after, x.1 ≠ t) ∧ c.origin = .control before.length := by
  by_cases h : interest.control
  · have hkept := mem_keepLast_placeControls (n := 0) (l := record.control) (t := t) (c := c)
    simp only [Nat.zero_add] at hkept
    have hfound : ∀ k, (placedControls record).find? (fun k => k.1 = t) = some k ↔
        k ∈ placedControls record ∧ k.1 = t := fun k =>
      StableSort.find?_eq_some_iff Prod.fst (nodup_keys_keepLast _)
    rw [controlField?_build h, ← hkept, Option.map_eq_some_iff]
    simp only [h, true_and, hfound]
    constructor
    · rintro ⟨⟨t', c'⟩, ⟨hk, rfl⟩, rfl⟩
      exact hk
    · intro hk
      exact ⟨(t, c), ⟨hk, rfl⟩, rfl⟩
  · have hnone : (build record interest).controlField? t = none := by
      simp [build, h, controlField?, empty]
    simp [hnone, h]

theorem eq_of_controlField?_build {t t' : String} {c c' : PlacedControl}
    (hc : (build record interest).controlField? t = some c)
    (hc' : (build record interest).controlField? t' = some c') (horigin : c.origin = c'.origin) :
    t = t' := by
  obtain ⟨-, before, after, hl, -, hn⟩ := controlField?_build_eq_some_iff.mp hc
  obtain ⟨-, before', after', hl', -, hn'⟩ := controlField?_build_eq_some_iff.mp hc'
  have hlength : before.length = before'.length := by
    rw [hn, hn'] at horigin
    exact Origin.control.inj horigin
  have hcons := (List.append_inj (hl.symm.trans hl') hlength).2
  exact congrArg Prod.fst (List.cons.inj hcons).1

/-! ## The invariant -/

/-- What an index says of its record. The number of a data field is its place among those of
interest. -/
structure IsIndexOf (record : RecordView) (interest : Interest) (index : Index) : Prop where
  /-- A look-up finds what the buckets hold. -/
  mem_bucket : ∀ s e, e ∈ index.bucket s ↔ (s, e) ∈ index.entries
  /-- A field that is in no alternate script occurs once, under its own tag. -/
  direct : ∀ k f, (numbered record interest)[k]? = some f → f.tag ≠ alternateTag →
    index.occurrences k = [(.direct f.tag, ⟨.data k, f⟩)]
  /-- A field in an alternate script that links to a tag of interest occurs once, under that. -/
  linked : ∀ k f t, (numbered record interest)[k]? = some f → f.tag = alternateTag →
    f.linkedTag? = some t → interest.contains t →
    index.occurrences k = [(.linked t, ⟨.data k, f⟩)]
  /-- A field in an alternate script that links to no tag of interest does not occur. -/
  discarded : ∀ k f, (numbered record interest)[k]? = some f → f.tag = alternateTag →
    (∀ t, f.linkedTag? = some t → ¬ interest.contains t) → index.occurrences k = []
  /-- Every entry is a numbered field. -/
  numbered : ∀ x ∈ index.entries, ∃ k f, (numbered record interest)[k]? = some f ∧
    x.2 = ⟨.data k, f⟩
  /-- Buckets ascend. -/
  ascending : ∀ s, (index.bucket s).Pairwise fun a b => a.origin.Before b.origin
  /-- No two entries share an origin. -/
  distinct : (index.entries.map fun x => x.2.origin).Nodup
  /-- Nor do two control fields. -/
  distinct_control : ∀ t t' c c', index.controlField? t = some c →
    index.controlField? t' = some c' → c.origin = c'.origin → t = t'
  /-- Of control fields the last one with a tag is found, if they are of interest. -/
  control : ∀ t c, index.controlField? t = some c ↔
    interest.control ∧ ∃ before after, record.control = before ++ (t, c.value) :: after ∧
      (∀ x ∈ after, x.1 ≠ t) ∧ c.origin = .control before.length
  /-- Control fields come before data fields. -/
  control_before : ∀ t c, index.controlField? t = some c →
    ∀ x ∈ index.entries, c.origin.Before x.2.origin

theorem control_before_build {t : String} {c : PlacedControl}
    (hc : (build record interest).controlField? t = some c) {x : Slot × PlacedField}
    (hx : x ∈ (build record interest).entries) : c.origin.Before x.2.origin := by
  obtain ⟨-, before, -, -, -, hcontrol⟩ := controlField?_build_eq_some_iff.mp hc
  obtain ⟨k, hdata⟩ := exists_data_of_mem_place (mem_entries_build.mp hx).1
  rw [hcontrol, hdata]
  exact ⟨rfl, fun h => by cases h⟩

/-- **The invariant holds of every index that is built.** If the interest was put together from the
least one, fields in an alternate script are always numbered. -/
theorem isIndexOf_build (record : RecordView) (interest : Interest) :
    IsIndexOf record interest (build record interest) ∧
    (interest.Collected → numbered record interest =
      record.fields.filter fun f => f.tag = alternateTag ∨ interest.contains f.tag) := by
  refine ⟨?_, fun h => ?_⟩
  · exact {
      mem_bucket := fun s e => mem_entries.symm
      direct := fun k f hk ha => occurrences_of_belongs hk (.direct ha)
      linked := fun k f t hk ha hlink ht => occurrences_of_belongs hk (.linked ha hlink ht)
      discarded := by
        intro k f hk ha hlink
        refine occurrences_of_not_belongs hk ?_
        rintro _ (ha' | ⟨-, ht, hcontains⟩)
        · exact ha' ha
        · exact hlink _ ht hcontains
      numbered := fun x hx => mem_placedFields_iff.mp (mem_entries_build.mp hx).1
      ascending := pairwise_bucket_build
      distinct := nodup_origin_entries_build
      distinct_control := fun t t' c c' => eq_of_controlField?_build
      control := fun t c => controlField?_build_eq_some_iff
      control_before := fun t c hc x hx => control_before_build hc hx }
  · refine List.filter_congr fun f _ => ?_
    by_cases ha : f.tag = alternateTag
    · simp [ha, h.contains_alternateTag]
    · simp [ha]

/-- Two titles, a link to a title and one to a field of no interest, and a tag with two payloads. -/
def linkedTitles : RecordView where
  control := [("001", "old number"), ("005", "20260131"), ("001", "number")]
  fields := [
    ⟨"999", ' ', ' ', [⟨'a', "local"⟩]⟩,
    ⟨"880", '1', '0', [⟨'6', "999-01"⟩, ⟨'a', "linked local"⟩]⟩,
    ⟨"880", '1', '0', [⟨'6', "245-02/$1"⟩, ⟨'6', "999-01"⟩]⟩,
    ⟨"245", '1', '0', [⟨'a', "title"⟩]⟩]

theorem isIndexOf_build_linkedTitles :
    let interest := (Interest.least.addTag "245").requireControl
    let index := build linkedTitles interest
    index.occurrences 0 = [] ∧
    index.occurrences 1 =
      [(.linked "245", ⟨.data 1, ⟨"880", '1', '0', [⟨'6', "245-02/$1"⟩, ⟨'6', "999-01"⟩]⟩⟩)] ∧
    index.occurrences 2 = [(.direct "245", ⟨.data 2, ⟨"245", '1', '0', [⟨'a', "title"⟩]⟩⟩)] ∧
    index.controlField? "001" = some ⟨.control 2, "number"⟩ := by
  intro interest index
  obtain ⟨h, hnumbered⟩ := isIndexOf_build linkedTitles interest
  have hcontains : ∀ t, interest.contains t ↔ t = "245" ∨ t = alternateTag := by
    intro t
    simp only [interest, Interest.contains_requireControl, Interest.contains_addTag,
      Interest.contains_least, Bool.or_eq_true, beq_iff_eq, eq_comm (b := t)]
  have hfields : numbered linkedTitles interest = linkedTitles.fields.drop 1 := by
    rw [hnumbered (.requireControl (.addTag .least "245"))]
    simp only [hcontains]
    decide
  refine ⟨?_, ?_, ?_, ?_⟩
  · refine h.discarded 0 _ (by rw [hfields]; rfl) rfl ?_
    intro t ht
    obtain rfl : "999" = t := Option.some.inj ht
    rw [hcontains]
    decide
  · exact h.linked 1 _ "245" (by rw [hfields]; rfl) rfl rfl ((hcontains _).mpr (.inl rfl))
  · exact h.direct 2 _ (by rw [hfields]; rfl) (by decide)
  · rw [h.control]
    exact ⟨rfl, [("001", "old number"), ("005", "20260131")], [], rfl, by simp, rfl⟩

end Index

end MarcHarvest
