import MarcHarvest.Extractor.Basic
import MarcHarvest.Proofs.Derivation.Reading

/-!
# Collected interest

The interest of several extractors consists of the tags that any of them looks up among the data
fields, the tag of alternate scripts, and control fields if any of them reads one
(`contains_interestOf`, `control_interestOf`). So it includes what each of them needs, and it does
not depend on their order or on how often one occurs (`same_interestOf`).
-/

namespace MarcHarvest

/-- Whether one interest includes another. -/
def Interest.Includes (i j : Interest) : Prop :=
  (∀ t, j.contains t → i.contains t) ∧ (j.control → i.control)

theorem Interest.Includes.refl (i : Interest) : i.Includes i := ⟨fun _ h => h, id⟩

theorem Interest.includes_addTag (i : Interest) (t : String) : (i.addTag t).Includes i :=
  ⟨fun t' h => by simp [h], fun h => h⟩

/-- Interests that nothing can tell apart: they contain the same tags, and both include control
fields or neither does. -/
structure Interest.Same (i j : Interest) : Prop where
  contains_eq : i.contains = j.contains
  control_eq : i.control = j.control

namespace Index

variable {i j : Interest}

theorem addFields_congr (h : i.contains = j.contains) (index : Index) (n : Nat)
    (fields : List Field) : addFields i index n fields = addFields j index n fields := by
  induction fields generalizing index n with
  | nil => rfl
  | cons f rest ih =>
    have hstep : addField i index n f = addField j index n f := by
      rw [addField, addField, linkedOfInterest?, linkedOfInterest?, h]
    rw [addFields, addFields, hstep, ih]

theorem build_congr (h : i.Same j) (record : RecordView) : build record i = build record j := by
  rw [build, build, h.contains_eq, h.control_eq, addFields_congr h.contains_eq]

end Index

namespace Extractor

/-- The tags that an extractor looks up among data fields. -/
def dataTags (e : Extractor) : List String :=
  ((e.components.filter fun c => !c.isControl).map Component.tag)
    ++ (e.derivation.map Derivation.tags).getD []

/-- Whether an extractor looks up a control field. -/
def needsControl (e : Extractor) : Bool :=
  e.components.any Component.isControl || e.derivation.any Derivation.needsControl

/-! ## One extractor -/

theorem mem_dataTags_iff (e : Extractor) (t : String) :
    t ∈ e.dataTags ↔ (∃ c ∈ e.components, ¬ c.isControl ∧ c.tag = t) ∨
      ∃ d, e.derivation = some d ∧ t ∈ d.tags := by
  rw [dataTags, List.mem_append]
  cases e.derivation <;> simp [and_assoc]

theorem needsControl_iff (e : Extractor) :
    e.needsControl ↔ (∃ c ∈ e.components, c.isControl) ∨
      e.derivation = some .publicationDate := by
  have hneeds : ∀ d : Derivation, d.needsControl ↔ d = .publicationDate := fun d => by
    cases d <;> simp [Derivation.needsControl]
  rw [needsControl, Bool.or_eq_true, List.any_eq_true]
  cases e.derivation <;> simp [hneeds]

theorem contains_foldl_addComponentInterest (i : Interest) (cs : List Component) (t : String) :
    (cs.foldl addComponentInterest i).contains t ↔
      t ∈ (cs.filter fun c => !c.isControl).map Component.tag ∨ i.contains t := by
  induction cs generalizing i with
  | nil => simp
  | cons c rest ih =>
    rw [List.foldl_cons, ih]
    by_cases hc : c.isControl
    · simp [addComponentInterest, hc]
    · have hmap : ((c :: rest).filter fun c => !c.isControl).map Component.tag =
          c.tag :: (rest.filter fun c => !c.isControl).map Component.tag := by simp [hc]
      rw [hmap, List.mem_cons, addComponentInterest, if_neg hc, Interest.contains_addTag,
        Bool.or_eq_true, beq_iff_eq, eq_comm (a := c.tag), or_assoc, or_left_comm]

theorem control_foldl_addComponentInterest (i : Interest) (cs : List Component) :
    (cs.foldl addComponentInterest i).control = (cs.any Component.isControl || i.control) := by
  induction cs generalizing i with
  | nil => rfl
  | cons c rest ih =>
    rw [List.foldl_cons, ih]
    by_cases hc : c.isControl <;> simp [addComponentInterest, hc]

theorem contains_addInterest (i : Interest) (e : Extractor) (t : String) :
    (addInterest i e).contains t ↔ t ∈ e.dataTags ∨ i.contains t := by
  unfold addInterest dataTags
  cases e.derivation with
  | none => simp [contains_foldl_addComponentInterest]
  | some d =>
    simp only [Derivation.contains_addInterest, contains_foldl_addComponentInterest, Option.map_some,
      Option.getD_some, List.mem_append]
    rw [or_assoc, or_left_comm]

theorem control_addInterest (i : Interest) (e : Extractor) :
    (addInterest i e).control = (e.needsControl || i.control) := by
  unfold addInterest needsControl
  cases e.derivation with
  | none => simp [control_foldl_addComponentInterest]
  | some d =>
    simp only [Derivation.control_addInterest, control_foldl_addComponentInterest, Option.any_some]
    rw [Bool.or_left_comm, Bool.or_assoc]

/-! ## Several extractors -/

theorem contains_foldl_addInterest (i : Interest) (es : List Extractor) (t : String) :
    (es.foldl addInterest i).contains t ↔ (∃ e ∈ es, t ∈ e.dataTags) ∨ i.contains t := by
  induction es generalizing i with
  | nil => simp
  | cons e rest ih =>
    rw [List.foldl_cons, ih, contains_addInterest]
    simp only [List.mem_cons, exists_eq_or_imp]
    rw [or_assoc, or_left_comm]

theorem control_foldl_addInterest (i : Interest) (es : List Extractor) :
    (es.foldl addInterest i).control = (es.any needsControl || i.control) := by
  induction es generalizing i with
  | nil => rfl
  | cons e rest ih =>
    rw [List.foldl_cons, ih, control_addInterest, List.any_cons, Bool.or_left_comm, Bool.or_assoc]

theorem contains_interestOf (es : List Extractor) (t : String) :
    (interestOf es).contains t ↔ (∃ e ∈ es, t ∈ e.dataTags) ∨ t = alternateTag := by
  rw [interestOf, contains_foldl_addInterest, Interest.contains_least, beq_iff_eq,
    eq_comm (a := alternateTag)]

theorem control_interestOf (es : List Extractor) :
    (interestOf es).control = es.any needsControl := by
  rw [interestOf, control_foldl_addInterest, Interest.control_least, Bool.or_false]

theorem includes_interestOf {es : List Extractor} {e : Extractor} (he : e ∈ es) :
    (interestOf es).Includes (interestOf [e]) := by
  refine ⟨fun t ht => ?_, fun h => ?_⟩
  · rw [contains_interestOf] at ht ⊢
    refine ht.imp_left ?_
    rintro ⟨e', he', ht⟩
    rw [List.mem_singleton] at he'
    exact ⟨e, he, he' ▸ ht⟩
  · rw [control_interestOf] at h ⊢
    exact List.any_eq_true.mpr ⟨e, he, by simpa using h⟩

/-- Only which extractors there are matters, and neither their order nor how often one occurs. -/
theorem same_interestOf {es fs : List Extractor} (h : ∀ e, e ∈ fs ↔ e ∈ es) :
    (interestOf fs).Same (interestOf es) := by
  refine ⟨funext fun t => ?_, ?_⟩
  · rw [Bool.eq_iff_iff, contains_interestOf, contains_interestOf]
    simp only [h]
  · rw [control_interestOf, control_interestOf, Bool.eq_iff_iff, List.any_eq_true,
      List.any_eq_true]
    simp only [h]

/-! ## What an extractor can rely on -/

section included

variable {e : Extractor} {i : Interest} (h : i.Includes (interestOf [e]))
include h

theorem contains_alternateTag : i.contains alternateTag :=
  h.1 _ ((contains_interestOf _ _).mpr (Or.inr rfl))

theorem contains_of_mem_dataTags {t : String} (ht : t ∈ e.dataTags) : i.contains t :=
  h.1 _ ((contains_interestOf _ _).mpr (Or.inl ⟨e, List.mem_singleton_self e, ht⟩))

theorem contains_of_mem_components {c : Component} (hc : c ∈ e.components) (hdata : ¬ c.isControl) :
    i.contains c.tag :=
  contains_of_mem_dataTags h (List.mem_append_left _
    (List.mem_map_of_mem (List.mem_filter.mpr ⟨hc, by simpa using hdata⟩)))

theorem contains_of_mem_tags {d : Derivation} (hd : e.derivation = some d) {t : String}
    (ht : t ∈ d.tags) : i.contains t :=
  contains_of_mem_dataTags h (List.mem_append_right _ (by simpa [hd] using ht))

theorem control_of_needsControl (hc : e.needsControl) : i.control :=
  h.2 (by rw [control_interestOf]; simpa using hc)

theorem control_of_mem_components {c : Component} (hc : c ∈ e.components) (hcontrol : c.isControl) :
    i.control :=
  control_of_needsControl h (by
    rw [needsControl, Bool.or_eq_true]
    exact Or.inl (List.any_eq_true.mpr ⟨c, hc, hcontrol⟩))

theorem supplied_of_includes {d : Derivation} (hd : e.derivation = some d) : d.Supplied i := by
  refine ⟨fun t ht => contains_of_mem_tags h hd ht, fun hc => control_of_needsControl h ?_⟩
  rw [needsControl, hd, Option.any_some, hc, Bool.or_true]

end included

end Extractor

end MarcHarvest
