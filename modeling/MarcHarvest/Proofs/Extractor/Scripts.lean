import MarcHarvest.Proofs.Batch.Isolation
import MarcHarvest.Proofs.Extractor.Compilation

/-!
# The three script modes

Every data field belongs to one of two modes: a field in an alternate script counts if links are
followed, any other field if direct fields are read. With both modes together a field gives what it
gives in its own mode. So the values of a record with both modes are the same control values as in
either mode, then an interleaving of what the two modes give (`modes_partition`).
-/

namespace MarcHarvest

/-! ## Interleaving -/

/-- Whether the third list consists of the first two, each in its order. -/
inductive Interleaves {α : Type} : List α → List α → List α → Prop
  | nil : Interleaves [] [] []
  | left {l m n : List α} (a : α) (h : Interleaves l m n) : Interleaves (a :: l) m (a :: n)
  | right {l m n : List α} (a : α) (h : Interleaves l m n) : Interleaves l (a :: m) (a :: n)

namespace Interleaves

variable {α : Type} {l m n l' m' n' : List α}

theorem nil_right (l : List α) : Interleaves l [] l := by
  induction l with
  | nil => exact .nil
  | cons a l ih => exact .left a ih

theorem nil_left (l : List α) : Interleaves [] l l := by
  induction l with
  | nil => exact .nil
  | cons a l ih => exact .right a ih

theorem append (h : Interleaves l m n) (h' : Interleaves l' m' n') :
    Interleaves (l ++ l') (m ++ m') (n ++ n') := by
  induction h with
  | nil => exact h'
  | left a _ ih => exact .left a ih
  | right a _ ih => exact .right a ih

theorem length_eq (h : Interleaves l m n) : n.length = l.length + m.length := by
  induction h with
  | nil => rfl
  | left a _ ih => simp only [List.length_cons, ih]; omega
  | right a _ ih => simp only [List.length_cons, ih]; omega

theorem sublist_left (h : Interleaves l m n) : l.Sublist n := by
  induction h with
  | nil => exact .slnil
  | left a _ ih => exact ih.cons_cons a
  | right a _ ih => exact ih.cons a

theorem sublist_right (h : Interleaves l m n) : m.Sublist n := by
  induction h with
  | nil => exact .slnil
  | left a _ ih => exact ih.cons a
  | right a _ ih => exact ih.cons_cons a

theorem flatMap {β : Type} {f g k : β → List α} (h : ∀ b, Interleaves (f b) (g b) (k b))
    (bs : List β) : Interleaves (bs.flatMap f) (bs.flatMap g) (bs.flatMap k) := by
  induction bs with
  | nil => exact .nil
  | cons b bs ih =>
    simp only [List.flatMap_cons]
    exact (h b).append ih

end Interleaves

namespace Extractor

/-! ## One field -/

def withScripts (e : Extractor) (mode : ScriptInclusion) : Extractor := { e with scripts := mode }

variable {e : Extractor} {f : Field} {mode mode' : ScriptInclusion}

theorem scanField_withScripts_congr
    (h : ∀ c, (e.withScripts mode).Counts c f ↔ (e.withScripts mode').Counts c f) :
    (e.withScripts mode).scanField f = (e.withScripts mode').scanField f := by
  refine List.flatMap_congr fun c _ => ?_
  have hvalues : ((e.withScripts mode).select c.selection f).map (e.withScripts mode).finish =
      ((e.withScripts mode').select c.selection f).map (e.withScripts mode').finish := rfl
  rw [hvalues]
  simp only [h c]

theorem scanField_eq_nil_of_not_counts (h : ∀ c, ¬ e.Counts c f) : e.scanField f = [] := by
  rw [scanField, List.flatMap_eq_nil_iff]
  intro c _
  exact if_neg fun hc => h c hc.2.1

/-- A field gives to both modes together what it gives to its own mode. -/
theorem interleaves_scanField (e : Extractor) (f : Field) :
    Interleaves ((e.withScripts .none).scanField f) ((e.withScripts .only).scanField f)
      ((e.withScripts .both).scanField f) := by
  by_cases hf : f.tag = alternateTag
  · have hnone : (e.withScripts .none).scanField f = [] := by
      refine scanField_eq_nil_of_not_counts fun c => ?_
      simp [counts_of_alternate hf, withScripts]
    have hboth : (e.withScripts .both).scanField f = (e.withScripts .only).scanField f := by
      refine scanField_withScripts_congr fun c => ?_
      simp [counts_of_alternate hf, withScripts]
    rw [hnone, hboth]
    exact .nil_left _
  · have honly : (e.withScripts .only).scanField f = [] := by
      refine scanField_eq_nil_of_not_counts fun c => ?_
      simp [counts_of_not_alternate hf, withScripts]
    have hboth : (e.withScripts .both).scanField f = (e.withScripts .none).scanField f := by
      refine scanField_withScripts_congr fun c => ?_
      simp [counts_of_not_alternate hf, withScripts]
    rw [honly, hboth]
    exact .nil_right _

/-! ## A record -/

theorem scan_eq_append (e : Extractor) (record : RecordView) :
    e.scan record =
      e.scan { record with fields := [] } ++ e.scan { record with control := [] } := by
  simp [scan, keepLast]

theorem scan_withScripts_control (e : Extractor) (mode : ScriptInclusion)
    (control : List (String × String)) :
    (e.withScripts mode).scan ⟨control, []⟩ = e.scan ⟨control, []⟩ :=
  rfl

theorem interleaves_scan (e : Extractor) (fields : List Field) :
    Interleaves ((e.withScripts .none).scan ⟨[], fields⟩) ((e.withScripts .only).scan ⟨[], fields⟩)
      ((e.withScripts .both).scan ⟨[], fields⟩) :=
  Interleaves.flatMap e.interleaves_scanField fields

/-- **Both modes together are the union of the two.** The three extractors that differ only in the
script mode give the same control values, and the data values of both modes are those of the two,
each once and in its order. Control values are those of the record without data fields, data values
those of the record without control fields. -/
theorem modes_partition {c : Config} {e : Extractor} (hc : c.compile = .ok e)
    (hd : e.derivation = none) :
    (∀ mode, { c with scripts := some mode }.compile = .ok (e.withScripts mode)) ∧
    ∀ (languages : LanguageTable) (record : RecordView),
      let data mode := (e.withScripts mode).alone languages { record with control := [] }
      (∀ mode, (e.withScripts mode).alone languages record =
        e.alone languages { record with fields := [] } ++ data mode) ∧
      Interleaves (data .none) (data .only) (data .both) ∧
      (data .none).Sublist (data .both) ∧ (data .only).Sublist (data .both) ∧
      (data .both).length = (data .none).length + (data .only).length := by
  refine ⟨Config.compile_scripts hc, fun languages record => ?_⟩
  have hscan : ∀ mode r, (e.withScripts mode).alone languages r = (e.withScripts mode).scan r :=
    fun mode r => alone_eq_scan (e := e.withScripts mode) hd languages r
  simp only [hscan, alone_eq_scan hd]
  have hinterleaves := e.interleaves_scan record.fields
  refine ⟨fun mode => ?_, hinterleaves, hinterleaves.sublist_left, hinterleaves.sublist_right,
    hinterleaves.length_eq⟩
  rw [scan_eq_append, scan_withScripts_control]

theorem modes_partition_linkedRecord :
    let c : Config := {
      name := "titles"
      fieldSpec := some "500a:245|*0|b:245a:001[0-2]:001"
      trims := false }
    let control := ["new", "new number"]
    c.compile = .ok titlesAndNotes ∧ titlesAndNotes.derivation = none ∧
    (titlesAndNotes.withScripts .none).alone .standard linkedRecord =
      control ++ ["rest", "title", "again", "note"] ∧
    (titlesAndNotes.withScripts .only).alone .standard linkedRecord =
      control ++ ["linked title"] ∧
    (titlesAndNotes.withScripts .both).alone .standard linkedRecord =
      control ++ ["linked title", "rest", "title", "again", "note"] := by
  have hc : Config.compile {
      name := "titles"
      fieldSpec := some "500a:245|*0|b:245a:001[0-2]:001"
      trims := false } = .ok titlesAndNotes := rfl
  have hmodes := ((modes_partition hc rfl).2 .standard linkedRecord).1
  refine ⟨hc, rfl, ?_⟩
  rw [hmodes .none, hmodes .only, hmodes .both]
  have hscan : ∀ mode r, (titlesAndNotes.withScripts mode).alone .standard r =
      (titlesAndNotes.withScripts mode).scan r :=
    fun mode r => alone_eq_scan (e := titlesAndNotes.withScripts mode) rfl .standard r
  simp only [hscan, alone_eq_scan (e := titlesAndNotes) rfl]
  decide

end Extractor

end MarcHarvest
