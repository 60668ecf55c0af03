import MarcHarvest.Derivation.SubjectHeading
import MarcHarvest.Proofs.StableSort

/-!
# Headings in one pass

A heading is collected code by code and then put in the order of the field. One pass over the subfields
in their order gives the same (`heading?_by_pass`): the main part stands at the first of its subfields,
and every subdivision at its own.

What is collected is a rearrangement of what the pass adds (`collected_perm`), because no code belongs to
both the main part and the subdivisions. The positions of the pass ascend, so no two parts share one and a
sort leaves only one arrangement.
-/

namespace MarcHarvest.SubjectHeading

open Text

/-! ## The pass -/

/-- Whether a subfield with code `c` belongs to the main part for a tag. -/
def isMainCode (tag : String) (c : Char) : Bool :=
  (mainCodes? tag).any fun codes => codes.toList.contains c

/-- The text of the main part before its punctuation is trimmed. -/
def mainText (f : Field) : String :=
  " ".intercalate ((f.subfields.filter fun s => isMainCode f.tag s.code).map Subfield.value)

/-- A text without its punctuation, if anything is left of it. -/
def trimmed? (text : String) : Option String :=
  let value := trimPunctuation text
  if value.isEmpty then none else some value

/-- What the pass adds at a subfield. `begun` tells whether it has come upon the main part. -/
def added? (f : Field) (begun : Bool) (s : Subfield) : Option String :=
  if isMainCode f.tag s.code then
    if begun then none else trimmed? (mainText f)
  else if subdivisionCodes.contains s.code then trimmed? s.value
  else none

/-- The values that the pass adds at subfields, in their order. -/
def pass (f : Field) (begun : Bool) : List Subfield → List String
  | [] => []
  | s :: rest => (added? f begun s).toList ++ pass f (begun || isMainCode f.tag s.code) rest

def joined? (values : List String) : Option String :=
  match values with
  | [] => none
  | values => some (" > ".intercalate values)

/-- The heading of a field by one pass over its subfields. -/
def headingByPass? (f : Field) : Option String := joined? (pass f false f.subfields)

/-! ## What is collected -/

/-- The parts of a heading as they are collected. -/
def collected (f : Field) : List Part := (mainPart? f).toList ++ subdivisions f

def ordered? (parts : List Part) : Option String :=
  joined? ((parts.mergeSort fun a b => a.1 ≤ b.1).map Prod.snd)

theorem heading?_eq_ordered? (f : Field) : heading? f = ordered? (collected f) := by
  unfold heading? ordered? collected
  cases (mainPart? f).toList ++ subdivisions f with
  | nil => rw [List.mergeSort_nil]; rfl
  | cons part parts =>
    have hlength := (List.mergeSort_perm (part :: parts) fun a b => a.1 ≤ b.1).length_eq
    dsimp only
    cases hsorted : (part :: parts).mergeSort fun a b => a.1 ≤ b.1 with
    | nil => simp [hsorted] at hlength
    | cons first more => rfl

theorem part?_eq (position : Nat) (text : String) :
    part? position text = (trimmed? text).map (position, ·) := by
  unfold part? trimmed?
  dsimp only
  split <;> rfl

theorem mainPart?_eq (f : Field) :
    mainPart? f =
      (f.subfields.zipIdx.find? fun s => isMainCode f.tag s.1.code).bind
        fun s => part? s.2 (mainText f) := by
  cases hcodes : mainCodes? f.tag with
  | none =>
    have hnone : (f.subfields.zipIdx.find? fun s => isMainCode f.tag s.1.code) = none := by
      rw [List.find?_eq_none]
      intro s _
      rw [isMainCode, hcodes]
      exact Bool.false_ne_true
    rw [mainPart?, hcodes, hnone]
    rfl
  | some codes =>
    have hmain : ∀ c, isMainCode f.tag c = codes.toList.contains c := by
      intro c
      rw [isMainCode, hcodes, Option.any_some]
    have hvalues : (placed (fun c => codes.toList.contains c) f).map (fun s => s.1.value) =
        (f.subfields.filter fun s => codes.toList.contains s.code).map Subfield.value := by
      conv_rhs => rw [← List.zipIdx_map_fst 0 f.subfields, List.filter_map, List.map_map]
      rfl
    simp only [mainPart?, hcodes, mainText, hmain, Option.bind_eq_bind, Option.bind_some, hvalues]
    rw [placed, List.head?_filter]

theorem isMainCode_eq_false (tag : String) {c : Char} (hc : subdivisionCodes.contains c) :
    isMainCode tag c = false := by
  have hnone : subdivisionCodes.all fun d => !isMainCode tag d := by
    unfold isMainCode mainCodes?
    split_ifs <;> rfl
  simpa using List.all_eq_true.mp hnone c (List.contains_iff_mem.mp hc)

def subdivisionsFrom (l : List (Subfield × Nat)) : List Part :=
  (l.filter fun s => subdivisionCodes.contains s.1.code).filterMap fun s => part? s.2 s.1.value

theorem subdivisions_perm (f : Field) :
    (subdivisions f).Perm (subdivisionsFrom f.subfields.zipIdx) := by
  have hbuckets := StableSort.perm_flatMap_filter (fun s : Subfield × Nat => s.1.code)
    (by decide : subdivisionCodes.Nodup) f.subfields.zipIdx
  have hparts := hbuckets.filterMap fun s => part? s.2 s.1.value
  rwa [List.filterMap_flatMap] at hparts

/-! ## The pass with positions -/

/-- The parts that the pass adds, with their positions. -/
def walk (f : Field) (begun : Bool) : List (Subfield × Nat) → List Part
  | [] => []
  | s :: rest =>
    ((added? f begun s.1).map (s.2, ·)).toList ++ walk f (begun || isMainCode f.tag s.1.code) rest

theorem map_snd_walk (f : Field) (begun : Bool) (l : List (Subfield × Nat)) :
    (walk f begun l).map Prod.snd = pass f begun (l.map Prod.fst) := by
  induction l generalizing begun with
  | nil => rfl
  | cons s rest ih =>
    rw [walk, List.map_append, ih, List.map_cons, pass]
    cases added? f begun s.1 <;> rfl

theorem map_fst_walk_sublist (f : Field) (begun : Bool) (l : List (Subfield × Nat)) :
    ((walk f begun l).map Prod.fst).Sublist (l.map Prod.snd) := by
  induction l generalizing begun with
  | nil => exact .slnil
  | cons s rest ih =>
    rw [walk, List.map_append, List.map_cons]
    cases added? f begun s.1 with
    | none => exact (ih _).cons s.2
    | some value => exact (ih _).cons_cons s.2

theorem filterMap_cons_eq_append {α β : Type} (g : α → Option β) (a : α) (l : List α) :
    (a :: l).filterMap g = (g a).toList ++ l.filterMap g := by
  rw [List.filterMap_cons]
  cases g a <;> rfl

def mainFrom (f : Field) (begun : Bool) (l : List (Subfield × Nat)) : List Part :=
  if begun then []
  else ((l.find? fun s => isMainCode f.tag s.1.code).bind fun s => part? s.2 (mainText f)).toList

variable {f : Field} {begun : Bool} {s : Subfield × Nat} {rest : List (Subfield × Nat)}

theorem mainFrom_cons (h : isMainCode f.tag s.1.code) :
    mainFrom f false (s :: rest) = ((trimmed? (mainText f)).map (s.2, ·)).toList := by
  rw [mainFrom, if_neg Bool.false_ne_true, List.find?_cons_of_pos (by exact h), Option.bind_some,
    part?_eq]

theorem mainFrom_cons_of_not (h : isMainCode f.tag s.1.code = false) :
    mainFrom f begun (s :: rest) = mainFrom f begun rest := by
  rw [mainFrom, List.find?_cons_of_neg (by simp [h]), mainFrom]

theorem subdivisionsFrom_cons (h : subdivisionCodes.contains s.1.code) :
    subdivisionsFrom (s :: rest) =
      ((trimmed? s.1.value).map (s.2, ·)).toList ++ subdivisionsFrom rest := by
  rw [subdivisionsFrom, List.filter_cons_of_pos (by exact h), filterMap_cons_eq_append, part?_eq,
    subdivisionsFrom]

theorem subdivisionsFrom_cons_of_not (h : ¬ subdivisionCodes.contains s.1.code) :
    subdivisionsFrom (s :: rest) = subdivisionsFrom rest := by
  rw [subdivisionsFrom, List.filter_cons_of_neg (by exact h), subdivisionsFrom]

/-- The pass adds the main part, if it has not come upon it, and all subdivisions. -/
theorem walk_perm (f : Field) (begun : Bool) (l : List (Subfield × Nat)) :
    (walk f begun l).Perm (mainFrom f begun l ++ subdivisionsFrom l) := by
  induction l generalizing begun with
  | nil => cases begun <;> exact .refl _
  | cons s rest ih =>
    have hrest := ih (begun || isMainCode f.tag s.1.code)
    rw [walk, added?]
    by_cases hsub : subdivisionCodes.contains s.1.code
    · -- a subdivision ahead of the main part changes places with it
      have hmain := isMainCode_eq_false f.tag hsub
      rw [hmain, Bool.or_false] at hrest
      rw [hmain, if_neg Bool.false_ne_true, if_pos hsub, Bool.or_false, mainFrom_cons_of_not hmain,
        subdivisionsFrom_cons hsub]
      exact (hrest.append_left _).trans (List.perm_append_comm_assoc ..)
    · rw [subdivisionsFrom_cons_of_not hsub]
      cases hmain : isMainCode f.tag s.1.code with
      | false =>
        rw [hmain, Bool.or_false] at hrest
        rw [if_neg Bool.false_ne_true, if_neg hsub, Bool.or_false, mainFrom_cons_of_not hmain]
        exact hrest
      | true =>
        rw [hmain, Bool.or_true] at hrest
        rw [if_pos rfl, Bool.or_true]
        -- after the first of its subfields the main part is not added again
        cases begun with
        | true => exact hrest
        | false =>
          rw [if_neg Bool.false_ne_true, mainFrom_cons hmain]
          exact hrest.append_left _

theorem collected_perm (f : Field) : (collected f).Perm (walk f false f.subfields.zipIdx) := by
  have hmain : (mainPart? f).toList = mainFrom f false f.subfields.zipIdx := by
    rw [mainPart?_eq]
    rfl
  rw [collected, hmain]
  exact ((subdivisions_perm f).append_left _).trans (walk_perm f false _).symm

theorem pairwise_walk (f : Field) :
    ((walk f false f.subfields.zipIdx).map Prod.fst).Pairwise (· < ·) := by
  have hsublist := map_fst_walk_sublist f false f.subfields.zipIdx
  rw [List.zipIdx_map_snd] at hsublist
  exact (List.pairwise_lt_range' 1).sublist hsublist

/-- However the parts are arranged, in the order of their positions they are the pass. -/
theorem ordered?_of_perm {parts : List Part} (h : parts.Perm (collected f)) :
    ordered? parts = headingByPass? f := by
  have hpositions := pairwise_walk f
  have hascending : (walk f false f.subfields.zipIdx).Pairwise fun a b => decide (a.1 ≤ b.1) :=
    (List.pairwise_map.mp hpositions).imp fun hlt => decide_eq_true (Nat.le_of_lt hlt)
  have hsorted : (parts.mergeSort fun a b => a.1 ≤ b.1) = walk f false f.subfields.zipIdx :=
    StableSort.mergeSort_eq_of_perm Prod.fst StableSort.isOrder_nat (h.trans (collected_perm f))
      hascending hpositions.nodup
  rw [ordered?, hsorted, map_snd_walk, List.zipIdx_map_fst]
  rfl

theorem heading?_eq_headingByPass? (f : Field) : heading? f = headingByPass? f := by
  rw [heading?_eq_ordered?]
  exact ordered?_of_perm (.refl _)

/-- **A heading in one pass.** The heading of a field is what one pass over its subfields gives. All
parts that are collected have their own positions, so they may be collected in any order. -/
theorem heading?_by_pass (f : Field) :
    heading? f = headingByPass? f ∧
    ((collected f).map Prod.fst).Nodup ∧
    ∀ parts : List Part, parts.Perm (collected f) → ordered? parts = heading? f := by
  refine ⟨heading?_eq_headingByPass? f, ?_, ?_⟩
  · exact ((collected_perm f).map Prod.fst).nodup_iff.mpr (pairwise_walk f).nodup
  · intro parts hparts
    rw [heading?_eq_headingByPass?]
    exact ordered?_of_perm hparts

/-- A main part between subdivisions, with a subdivision within it. -/
example : headingByPass? ⟨"650", ' ', '0', [⟨'x', "History"⟩, ⟨'a', "Shinto shrines"⟩, ⟨'z', "Japan"⟩,
    ⟨'b', "Tokyo."⟩]⟩ = some "History > Shinto shrines Tokyo > Japan" := by decide

end MarcHarvest.SubjectHeading
