import MarcHarvest.Proofs.OrderedMap
import MarcHarvest.Record.Basic

/-!
# Records over runs of changes

A record is changed by adding control fields, adding data fields and setting subfields. Over a run
of such changes the control fields are a map to which only the first kind writes, and the data
fields stay where they are while exactly the added ones come after them (`Evolves`).

Setting a subfield writes to the first field with the tag, and there to the first subfield with the
code. Both are the same operation, `updateFirst`: the first element of a kind is changed in its
place, or a new one is added at the end. What it keeps, what a search finds afterwards and what a
second write does is shown for lists, and holds for subfields and fields alike (`IsSet`).

Since fields come at the end only, the first field of a tag stays the first. So the changes of a run
can be sorted out: `addedFields` tells which fields came, and every subfield that was set went to
the first field of its tag (`fields_mutate`).
-/

namespace MarcHarvest

section lists

variable {α : Type}

/-! ## Lists that grow at the end -/

/-- Whether the first elements of the second list stand for those of the first, in their places. -/
inductive Extended (R : α → α → Prop) : List α → List α → Prop
  | nil (m : List α) : Extended R [] m
  | cons {a b : α} {l m : List α} (h : R a b) (hl : Extended R l m) : Extended R (a :: l) (b :: m)

namespace Extended

variable {R S T : α → α → Prop} {l m n : List α}

theorem append_left (hrefl : ∀ a, R a a) (before : List α) (h : Extended R l m) :
    Extended R (before ++ l) (before ++ m) := by
  induction before with
  | nil => exact h
  | cons a before ih => exact .cons (hrefl a) ih

theorem self_append (hrefl : ∀ a, R a a) (l added : List α) : Extended R l (l ++ added) := by
  simpa using append_left hrefl l (.nil added)

theorem refl (hrefl : ∀ a, R a a) (l : List α) : Extended R l l := by
  simpa using self_append hrefl l []

theorem trans (hRS : ∀ a b c, R a b → S b c → T a c) (h : Extended R l m) (h' : Extended S m n) :
    Extended T l n := by
  induction h generalizing n with
  | nil m => exact .nil n
  | cons hab _ ih =>
    cases h' with
    | cons hbc hmn => exact .cons (hRS _ _ _ hab hbc) (ih hmn)

end Extended

/-! ## The first element of a kind -/

/-- Changes the first element that satisfies `p`, or adds a new one at the end. -/
def updateFirst (p : α → Bool) (u : α → α) (new : α) : List α → List α
  | [] => [new]
  | a :: rest => if p a then u a :: rest else a :: updateFirst p u new rest

variable {p : α → Bool} {u w : α → α} {new new' : α} {l m : List α}

theorem updateFirst_of_absent (h : ∀ a ∈ l, ¬ p a) : updateFirst p u new l = l ++ [new] := by
  induction l with
  | nil => rfl
  | cons a rest ih =>
    have ha : ¬ p a := h a (by simp)
    have hrest : ∀ b ∈ rest, ¬ p b := fun b hb => h b (by simp [hb])
    rw [updateFirst, if_neg ha, ih hrest, List.cons_append]

theorem updateFirst_append {before after : List α} {a : α} (hbefore : ∀ b ∈ before, ¬ p b)
    (ha : p a) : updateFirst p u new (before ++ a :: after) = before ++ u a :: after := by
  induction before with
  | nil => simp [updateFirst, ha]
  | cons b before ih =>
    have hb : ¬ p b := hbefore b (by simp)
    have hrest : ∀ c ∈ before, ¬ p c := fun c hc => hbefore c (by simp [hc])
    rw [List.cons_append, updateFirst, if_neg hb, ih hrest, List.cons_append]

theorem find?_updateFirst (hu : ∀ a, p a → p (u a)) (hnew : p new) (l : List α) :
    (updateFirst p u new l).find? p = some ((l.find? p).elim new u) := by
  induction l with
  | nil => simp [updateFirst, hnew]
  | cons a rest ih =>
    by_cases ha : p a
    · simp [updateFirst, ha, hu a ha]
    · simpa [updateFirst, ha] using ih

theorem updateFirst_updateFirst (hu : ∀ a, p a → p (u a)) (hnew : p new)
    (hw : ∀ a, w (u a) = w a) (hw' : w new = new') (l : List α) :
    updateFirst p w new' (updateFirst p u new l) = updateFirst p w new' l := by
  induction l with
  | nil => simp [updateFirst, hnew, hw']
  | cons a rest ih =>
    by_cases ha : p a
    · simp [updateFirst, ha, hu a ha, hw]
    · simp [updateFirst, ha, ih]

/-- Whether `m` is `l` with a change of the first element that satisfies `p`, or with a new one at
the end if there is none. -/
structure FirstChanged (p : α → Bool) (Changed : α → α → Prop) (new : α) (l m : List α) : Prop where
  present : ∀ a, l.find? p = some a → ∃ before a' after, l = before ++ a :: after ∧
    (∀ b ∈ before, ¬ p b) ∧ Changed a a' ∧ m = before ++ a' :: after
  absent : l.find? p = none → m = l ++ [new]

theorem firstChanged_updateFirst {Changed : α → α → Prop} (h : ∀ a, Changed a (u a))
    (l : List α) : FirstChanged p Changed new l (updateFirst p u new l) where
  present a ha := by
    obtain ⟨hp, before, after, rfl, hbefore⟩ := List.find?_eq_some_iff_append.mp ha
    have hfirst : ∀ b ∈ before, ¬ p b := by simpa using hbefore
    exact ⟨before, u a, after, rfl, hfirst, h a, updateFirst_append hfirst hp⟩
  absent hnone := by
    have habsent : ∀ a ∈ l, ¬ p a := by simpa using hnone
    exact updateFirst_of_absent habsent

theorem FirstChanged.extended {Changed R : α → α → Prop} (h : FirstChanged p Changed new l m)
    (hrefl : ∀ a, R a a) (hchanged : ∀ a a', p a → Changed a a' → R a a') : Extended R l m := by
  cases hfind : l.find? p with
  | none =>
    rw [h.absent hfind]
    exact Extended.self_append hrefl l _
  | some a =>
    have ha : p a := List.find?_some hfind
    obtain ⟨before, a', after, rfl, -, haa', rfl⟩ := h.present a hfind
    have hrest : Extended R (a :: after) (a' :: after) :=
      .cons (hchanged a a' ha haa') (.refl hrefl after)
    exact hrest.append_left hrefl before

end lists

/-! ## Setting a subfield of a field -/

namespace Field

variable {f g h : Field} {code : Char} {value : String}

theorem setSubfields_eq (code : Char) (value : String) (l : List Subfield) :
    setSubfields code value l =
      updateFirst (fun s => s.code == code) (fun s => { s with value }) ⟨code, value⟩ l := by
  induction l with
  | nil => rfl
  | cons s rest ih => simp [setSubfields, updateFirst, ih]

/-- Whether a field is another one with the first value of a code set, and nothing else changed. -/
def IsSet (code : Char) (value : String) (f g : Field) : Prop :=
  ∃ subfields, g = { f with subfields } ∧
    FirstChanged (fun s => s.code == code) (fun s t => t = { s with value }) ⟨code, value⟩
      f.subfields subfields

theorem isSet_set (f : Field) (code : Char) (value : String) :
    f.IsSet code value (f.set code value) := by
  refine ⟨_, rfl, ?_⟩
  rw [setSubfields_eq]
  refine firstChanged_updateFirst ?_ f.subfields
  intro s
  rfl

theorem value?_set (f : Field) (code : Char) (value : String) :
    (f.set code value).value? code = some value := by
  have hkeeps : ∀ s : Subfield, s.code == code → ({ s with value } : Subfield).code == code :=
    fun s hs => hs
  have hnew : (⟨code, value⟩ : Subfield).code == code := beq_self_eq_true code
  rw [value?, set, setSubfields_eq, find?_updateFirst hkeeps hnew]
  cases f.subfields.find? fun s => s.code == code <;> rfl

theorem set_set (f : Field) (code : Char) (v w : String) :
    (f.set code v).set code w = f.set code w := by
  have hkeeps : ∀ s : Subfield, s.code == code → ({ s with value := v } : Subfield).code == code :=
    fun s hs => hs
  have hnew : (⟨code, v⟩ : Subfield).code == code := beq_self_eq_true code
  have hforgets := updateFirst_updateFirst (w := fun s : Subfield => { s with value := w }) hkeeps
    hnew (fun s => rfl) rfl f.subfields
  simp only [set, setSubfields_eq, hforgets]

/-- Whether a field has become another one by setting subfields under some tags. -/
structure Grows (tags : List String) (f g : Field) : Prop where
  tag_eq : g.tag = f.tag
  ind1_eq : g.ind1 = f.ind1
  ind2_eq : g.ind2 = f.ind2
  subfields : Extended (fun s t => t.code = s.code) f.subfields g.subfields
  eq_of_notMem : f.tag ∉ tags → g = f

theorem Grows.refl (tags : List String) (f : Field) : Grows tags f f where
  tag_eq := rfl
  ind1_eq := rfl
  ind2_eq := rfl
  subfields := by
    refine .refl ?_ f.subfields
    intro s
    rfl
  eq_of_notMem _ := rfl

theorem Grows.trans {tags : List String} (hfg : Grows tags f g) (hgh : Grows tags g h) :
    Grows tags f h where
  tag_eq := hgh.tag_eq.trans hfg.tag_eq
  ind1_eq := hgh.ind1_eq.trans hfg.ind1_eq
  ind2_eq := hgh.ind2_eq.trans hfg.ind2_eq
  subfields := hfg.subfields.trans (fun _ _ _ hst htu => htu.trans hst) hgh.subfields
  eq_of_notMem hf := by
    have hg : g.tag ∉ tags := hfg.tag_eq ▸ hf
    rw [hgh.eq_of_notMem hg, hfg.eq_of_notMem hf]

theorem IsSet.grows {tags : List String} (hset : f.IsSet code value g) (hf : f.tag ∈ tags) :
    Grows tags f g := by
  obtain ⟨subfields, rfl, hchanged⟩ := hset
  have hsubfields : Extended (fun s t => t.code = s.code) f.subfields subfields := by
    refine hchanged.extended (fun _ => rfl) ?_
    rintro s t - rfl
    rfl
  exact ⟨rfl, rfl, rfl, hsubfields, fun hnot => absurd hf hnot⟩

def setAll (f : Field) (sets : List (Char × String)) : Field :=
  sets.foldl (fun f s => f.set s.1 s.2) f

theorem grows_setAll {tags : List String} {sets : List (Char × String)}
    (h : ∀ s ∈ sets, f.tag ∈ tags) : Grows tags f (f.setAll sets) := by
  induction sets generalizing f with
  | nil => exact .refl tags f
  | cons s rest ih =>
    have hfirst : Grows tags f (f.set s.1 s.2) :=
      (f.isSet_set s.1 s.2).grows (h s List.mem_cons_self)
    exact hfirst.trans (ih fun t ht => h t (List.mem_cons_of_mem s ht))

end Field

/-! ## Setting a subfield of a record -/

namespace Record

/-- The field that a subfield makes if none has its tag. -/
def fieldOf (tag : String) (code : Char) (value : String) : Field :=
  ⟨tag, ' ', ' ', [⟨code, value⟩]⟩

theorem setInFields_eq (tag : String) (code : Char) (value : String) (l : List Field) :
    setInFields tag code value l =
      updateFirst (fun f => f.tag == tag) (fun f => f.set code value)
        (fieldOf tag code value) l := by
  induction l with
  | nil => rfl
  | cons f rest ih => simp [setInFields, updateFirst, ih]

/-- Whether a record is another one with the first value of a code in the first field of a tag set,
and nothing else changed. -/
structure IsSet (tag : String) (code : Char) (value : String) (r s : Record) : Prop where
  leader_eq : s.leader = r.leader
  control_eq : s.control = r.control
  fields : FirstChanged (fun f => f.tag == tag) (Field.IsSet code value) (fieldOf tag code value)
    r.fields s.fields
  value_eq : ∃ f, s.field? tag = some f ∧ f.value? code = some value

theorem isSet_setSubfield (r : Record) (tag : String) (code : Char) (value : String) :
    r.IsSet tag code value (r.setSubfield tag code value) where
  leader_eq := rfl
  control_eq := rfl
  fields := by
    rw [setSubfield, setInFields_eq]
    exact firstChanged_updateFirst (fun f => f.isSet_set code value) r.fields
  value_eq := by
    have hkeeps : ∀ f : Field, f.tag == tag → (f.set code value).tag == tag := fun f hf => hf
    have hnew : (fieldOf tag code value).tag == tag := beq_self_eq_true tag
    rw [field?, setSubfield, setInFields_eq]
    refine ⟨_, find?_updateFirst hkeeps hnew r.fields, ?_⟩
    cases r.fields.find? fun f => f.tag == tag with
    | none => simp [fieldOf, Field.value?]
    | some f => exact f.value?_set code value

theorem setSubfield_setSubfield (r : Record) (tag : String) (code : Char) (v w : String) :
    (r.setSubfield tag code v).setSubfield tag code w = r.setSubfield tag code w := by
  have hkeeps : ∀ f : Field, f.tag == tag → (f.set code v).tag == tag := fun f hf => hf
  have hnew : (fieldOf tag code v).tag == tag := beq_self_eq_true tag
  have hset : (fieldOf tag code v).set code w = fieldOf tag code w := by
    simp [fieldOf, Field.set, Field.setSubfields]
  have hforgets := updateFirst_updateFirst (w := fun f : Field => f.set code w) hkeeps hnew
    (fun f => f.set_set code v w) hset r.fields
  simp only [setSubfield, setInFields_eq, hforgets]

/-! ## Runs -/

inductive Mutation where
  | addControl (tag value : String)
  | addField (f : Field)
  | setSubfield (tag : String) (code : Char) (value : String)

def change (r : Record) : Mutation → Record
  | .addControl tag value => r.addControl tag value
  | .addField f => r.addField f
  | .setSubfield tag code value => r.setSubfield tag code value

/-- The record after one change after the other. -/
def mutate (r : Record) (ms : List Mutation) : Record := ms.foldl change r

/-- The control fields that are added. -/
def inserted (ms : List Mutation) : List (String × String) :=
  ms.filterMap fun
    | .addControl tag value => some (tag, value)
    | _ => none

/-- The tags under which subfields are set. -/
def setTags (ms : List Mutation) : List String :=
  ms.filterMap fun
    | .setSubfield tag _ _ => some tag
    | _ => none

/-- The subfields that are set under a tag, in their order. -/
def setUnder (ms : List Mutation) (tag : String) : List (Char × String) :=
  ms.filterMap fun
    | .setSubfield t code value => if t = tag then some (code, value) else none
    | _ => none

/-- The fields that come to those with the given tags: each that is added, and one for each subfield
that is set when no field has its tag. -/
def addedFields (tags : List String) : List Mutation → List Field
  | [] => []
  | .addControl _ _ :: ms => addedFields tags ms
  | .addField f :: ms => f :: addedFields (tags ++ [f.tag]) ms
  | .setSubfield tag code value :: ms =>
    if tag ∈ tags then addedFields tags ms
    else fieldOf tag code value :: addedFields (tags ++ [tag]) ms

/-- Fields of which the first of every tag has some values set; `tags` are those of the fields
before. -/
def setFirsts (sets : String → List (Char × String)) (tags : List String) : List Field → List Field
  | [] => []
  | f :: rest =>
    (if f.tag ∈ tags then f else f.setAll (sets f.tag)) :: setFirsts sets (f.tag :: tags) rest

/-- What becomes of a record by a run of changes. -/
structure Evolves (r : Record) (ms : List Mutation) (s : Record) : Prop where
  leader_eq : s.leader = r.leader
  /-- Only added control fields are written to the control fields. -/
  control_eq : s.control = (inserted ms).foldl (fun c e => c.insert e.1 e.2) r.control
  /-- Control tags are distinct, in the order in which they first came, each with its last value. -/
  nodup_control : s.control.keys.Nodup
  control : s.control.IsWritten (r.control.entries ++ inserted ms)
  /-- Data fields keep their places, and after them come those that were added and no others, in
  their order. Each can only grow, and does not change at all if nothing was set under its tag. -/
  fields : List.Forall₂ (Field.Grows (setTags ms))
    (r.fields ++ addedFields (r.fields.map Field.tag) ms) s.fields
  /-- What was set under a tag is in the first of its fields. -/
  fields_eq : s.fields =
    setFirsts (setUnder ms) [] (r.fields ++ addedFields (r.fields.map Field.tag) ms)

theorem leader_change (r : Record) (m : Mutation) : (r.change m).leader = r.leader := by
  cases m <;> rfl

theorem control_change (r : Record) (m : Mutation) :
    (r.change m).control = (inserted [m]).foldl (fun c e => c.insert e.1 e.2) r.control := by
  cases m <;> rfl

theorem leader_mutate (r : Record) (ms : List Mutation) : (r.mutate ms).leader = r.leader := by
  induction ms generalizing r with
  | nil => rfl
  | cons m ms ih => exact (ih (r.change m)).trans (leader_change r m)

theorem control_mutate (r : Record) (ms : List Mutation) :
    (r.mutate ms).control = (inserted ms).foldl (fun c e => c.insert e.1 e.2) r.control := by
  induction ms generalizing r with
  | nil => rfl
  | cons m ms ih =>
    have hinserted : inserted (m :: ms) = inserted [m] ++ inserted ms :=
      List.filterMap_append (l := [m])
    rw [hinserted, List.foldl_append, ← control_change]
    exact ih (r.change m)

theorem setFirsts_congr {sets sets' : String → List (Char × String)} {tags : List String}
    (h : ∀ t, t ∉ tags → sets t = sets' t) (l : List Field) :
    setFirsts sets tags l = setFirsts sets' tags l := by
  induction l generalizing tags with
  | nil => rfl
  | cons f rest ih =>
    have hrest : ∀ t, t ∉ f.tag :: tags → sets t = sets' t := fun t ht =>
      h t fun hmem => ht (List.mem_cons_of_mem _ hmem)
    rw [setFirsts, setFirsts, ih hrest]
    by_cases hf : f.tag ∈ tags
    · rw [if_pos hf, if_pos hf]
    · rw [if_neg hf, if_neg hf, h f.tag hf]

variable {tag : String} {code : Char} {value : String}

theorem setUnder_cons_setSubfield (ms : List Mutation) :
    setUnder (.setSubfield tag code value :: ms) tag = (code, value) :: setUnder ms tag := by
  simp [setUnder]

theorem setUnder_cons_of_ne {t : String} (h : t ≠ tag) (ms : List Mutation) :
    setUnder (.setSubfield tag code value :: ms) t = setUnder ms t := by
  simp [setUnder, h.symm]

theorem map_tag_setInFields {l : List Field} (h : tag ∈ l.map Field.tag) :
    (setInFields tag code value l).map Field.tag = l.map Field.tag := by
  induction l with
  | nil => cases h
  | cons f rest ih =>
    rw [setInFields]
    split
    · rfl
    · next hf =>
      have hrest : tag ∈ rest.map Field.tag :=
        (List.mem_cons.mp h).resolve_left fun htag => hf htag.symm
      rw [List.map_cons, List.map_cons, ih hrest]

/-- A subfield can be set now or when all others of its tag are. -/
theorem setFirsts_setInFields {l : List Field} (h : tag ∈ l.map Field.tag) {tags : List String}
    (htags : tag ∉ tags) (ms : List Mutation) (added : List Field) :
    setFirsts (setUnder ms) tags (setInFields tag code value l ++ added) =
      setFirsts (setUnder (.setSubfield tag code value :: ms)) tags (l ++ added) := by
  induction l generalizing tags with
  | nil => cases h
  | cons f rest ih =>
    by_cases hf : f.tag = tag
    · have hlater : ∀ t, t ∉ f.tag :: tags →
          setUnder ms t = setUnder (.setSubfield tag code value :: ms) t := by
        intro t ht
        have hne : t ≠ tag := fun heq => ht (heq ▸ hf ▸ List.mem_cons_self)
        rw [setUnder_cons_of_ne hne]
      have hset : (f.set code value).tag = f.tag := rfl
      rw [setInFields, if_pos hf, List.cons_append, List.cons_append, setFirsts, setFirsts, hset,
        setFirsts_congr hlater, hf, if_neg htags, if_neg htags, setUnder_cons_setSubfield]
      rfl
    · have hrest : tag ∈ rest.map Field.tag :=
        (List.mem_cons.mp h).resolve_left fun htag => hf htag.symm
      have htags' : tag ∉ f.tag :: tags := by
        rw [List.mem_cons, not_or]
        exact ⟨fun htag => hf htag.symm, htags⟩
      rw [setInFields, if_neg hf, List.cons_append, List.cons_append, setFirsts, setFirsts,
        ih hrest htags', setUnder_cons_of_ne hf]

theorem setInFields_append_fieldOf {l : List Field} (h : tag ∉ l.map Field.tag) :
    setInFields tag code value (l ++ [fieldOf tag code value]) = setInFields tag code value l := by
  have habsent : ∀ f ∈ l, ¬ f.tag == tag := fun f hf htag =>
    h (beq_iff_eq.mp htag ▸ List.mem_map_of_mem hf)
  have hnew : (fieldOf tag code value).tag == tag := beq_self_eq_true tag
  rw [setInFields_eq, setInFields_eq, updateFirst_of_absent habsent,
    updateFirst_append habsent hnew]
  simp [fieldOf, Field.set, Field.setSubfields]

theorem setFirsts_nil (tags : List String) (l : List Field) :
    setFirsts (fun _ => []) tags l = l := by
  induction l generalizing tags with
  | nil => rfl
  | cons f rest ih => simp [setFirsts, ih, Field.setAll]

theorem fields_mutate (r : Record) (ms : List Mutation) :
    (r.mutate ms).fields =
      setFirsts (setUnder ms) [] (r.fields ++ addedFields (r.fields.map Field.tag) ms) := by
  induction ms generalizing r with
  | nil => exact ((setFirsts_nil [] _).trans (List.append_nil _)).symm
  | cons m ms ih =>
    refine (ih (r.change m)).trans ?_
    cases m with
    | addControl tag value => rfl
    | addField f =>
      have hfields : (r.change (.addField f)).fields = r.fields ++ [f] := rfl
      rw [hfields, List.map_append, List.append_assoc]
      rfl
    | setSubfield tag code value =>
      have hfields : (r.change (.setSubfield tag code value)).fields =
        setInFields tag code value r.fields := rfl
      rw [hfields]
      by_cases htag : tag ∈ r.fields.map Field.tag
      · rw [map_tag_setInFields htag, setFirsts_setInFields htag List.not_mem_nil, addedFields,
          if_pos htag]
      · -- The new field might as well have been there before its subfield was set.
        have hmade : tag ∈ (r.fields ++ [fieldOf tag code value]).map Field.tag := by
          simp [fieldOf]
        rw [← setInFields_append_fieldOf htag, map_tag_setInFields hmade,
          setFirsts_setInFields hmade List.not_mem_nil, addedFields, if_neg htag, List.map_append,
          List.append_assoc]
        rfl

theorem forall₂_setFirsts {sets : String → List (Char × String)} {grown : List String}
    (h : ∀ t, ∀ s ∈ sets t, t ∈ grown) (tags : List String) (l : List Field) :
    List.Forall₂ (Field.Grows grown) l (setFirsts sets tags l) := by
  induction l generalizing tags with
  | nil => exact .nil
  | cons f rest ih =>
    refine .cons ?_ (ih (f.tag :: tags))
    split
    · exact .refl grown f
    · exact Field.grows_setAll (h f.tag)

theorem mem_setTags {ms : List Mutation} {t : String} {s : Char × String}
    (hs : s ∈ setUnder ms t) : t ∈ setTags ms := by
  obtain ⟨m, hm, heq⟩ := List.mem_filterMap.mp hs
  refine List.mem_filterMap.mpr ⟨m, hm, ?_⟩
  cases m with
  | addControl tag value => cases heq
  | addField f => cases heq
  | setSubfield tag code value =>
    have htag : tag = t := by
      by_contra hne
      simp [hne] at heq
    exact congrArg some htag

theorem evolves_mutate (r : Record) (ms : List Mutation) : r.Evolves ms (r.mutate ms) where
  leader_eq := leader_mutate r ms
  control_eq := control_mutate r ms
  nodup_control := (r.mutate ms).control.nodup_keys
  control := by
    rw [control_mutate]
    exact r.control.isWritten_entries.foldl_insert (inserted ms)
  fields := by
    rw [fields_mutate]
    exact forall₂_setFirsts (fun _ _ => mem_setTags) [] _
  fields_eq := fields_mutate r ms

/-- **Changes of a record.** A run of changes writes to the control fields as to a map. The data
fields keep their places, and after them come exactly the fields that were added and one for each
subfield that was set when no field had its tag. After the run, setting a subfield is seen in the
first field of its tag, leaves everything else as it is, and forgets what was set before. -/
theorem evolves_isSet_mutate (r : Record) (ms : List Mutation) :
    r.Evolves ms (r.mutate ms) ∧
    ∀ tag code value,
      (r.mutate ms).IsSet tag code value (r.mutate (ms ++ [.setSubfield tag code value])) ∧
      ∀ value', r.mutate (ms ++ [.setSubfield tag code value, .setSubfield tag code value']) =
        r.mutate (ms ++ [.setSubfield tag code value']) := by
  refine ⟨evolves_mutate r ms, fun tag code value => ?_⟩
  simp only [mutate, List.foldl_append]
  refine ⟨isSet_setSubfield _ tag code value, fun value' => ?_⟩
  exact setSubfield_setSubfield _ tag code value value'

/-- Repeated tags and codes: the first ones are written to, and what is added comes last. -/
example :
    (Record.mk "" (.ofList [("001", "old"), ("003", "DLC")])
      [⟨"500", '1', ' ', [⟨'b', "x"⟩, ⟨'a', "y"⟩, ⟨'a', "z"⟩]⟩, ⟨"500", ' ', ' ', []⟩]).mutate
        [.setSubfield "500" 'a' "new", .addControl "005" "now", .addControl "001" "new",
          .addField ⟨"500", '2', ' ', [⟨'a', "w"⟩]⟩, .setSubfield "650" 'a' "topic",
          .addField ⟨"650", ' ', '0', []⟩, .setSubfield "650" 'x' "general"] =
      Record.mk "" (.ofList [("001", "new"), ("003", "DLC"), ("005", "now")])
        [⟨"500", '1', ' ', [⟨'b', "x"⟩, ⟨'a', "new"⟩, ⟨'a', "z"⟩]⟩, ⟨"500", ' ', ' ', []⟩,
          ⟨"500", '2', ' ', [⟨'a', "w"⟩]⟩, ⟨"650", ' ', ' ', [⟨'a', "topic"⟩, ⟨'x', "general"⟩]⟩,
          ⟨"650", ' ', '0', []⟩] := by
  decide

end Record

end MarcHarvest
