import Std.Data.HashMap
import MarcHarvest.Index.Interest
import MarcHarvest.Index.Origin

/-!
# Field index

One pass over a record files every data field of interest under its tag, together with its origin.
A field in an alternate script goes under the tag that it links to instead, if that tag is of
interest. Extractors look fields up by tag and use the origins to come back to record order.
-/

namespace MarcHarvest

/-- A data field and its place. -/
structure PlacedField where
  origin : Origin
  field : Field
  deriving Repr, DecidableEq

/-- The payload of a control field and its place. -/
structure PlacedControl where
  origin : Origin
  value : String
  deriving Repr, DecidableEq

/-- The fields of one record by tag. -/
structure Index where
  control : Std.HashMap String PlacedControl
  direct : Std.HashMap String (Array PlacedField)
  linked : Std.HashMap String (Array PlacedField)

namespace Index

def empty : Index := ⟨∅, ∅, ∅⟩

/-- Puts a field at the end of the bucket of a tag. -/
def file (buckets : Std.HashMap String (Array PlacedField)) (tag : String) (e : PlacedField) :
    Std.HashMap String (Array PlacedField) :=
  buckets.alter tag fun b => some ((b.getD #[]).push e)

/-- The entries filed under a tag, first filed first. -/
def filed (buckets : Std.HashMap String (Array PlacedField)) (tag : String) : List PlacedField :=
  (buckets.getD tag #[]).toList

@[simp] theorem filed_empty (tag : String) : filed ∅ tag = [] := by simp [filed]

theorem filed_file (buckets : Std.HashMap String (Array PlacedField)) (tag t : String)
    (e : PlacedField) :
    filed (file buckets tag e) t = if tag = t then filed buckets t ++ [e] else filed buckets t := by
  by_cases h : tag = t
  · subst h
    simp [filed, file, Std.HashMap.getD_eq_getD_getElem?]
  · simp [filed, file, Std.HashMap.getD_eq_getD_getElem?, Std.HashMap.getElem?_alter, h]

/-- The tag under which a field in an alternate script is filed: the one it links to, if that is
of interest. -/
def linkedOfInterest? (interest : Interest) (f : Field) : Option String :=
  f.linkedTag?.filter interest.contains

/-- Files the data field number `n`. -/
def addField (interest : Interest) (index : Index) (n : Nat) (f : Field) : Index :=
  if f.isAlternate then
    match linkedOfInterest? interest f with
    | some tag => { index with linked := file index.linked tag ⟨.data n, f⟩ }
    | none => index
  else { index with direct := file index.direct f.tag ⟨.data n, f⟩ }

/-- Files the fields of a list, the first of them with number `n`. -/
def addFields (interest : Interest) (index : Index) (n : Nat) : List Field → Index
  | [] => index
  | f :: rest => addFields interest (addField interest index n f) (n + 1) rest

/-- Files control fields, the first of them with number `n`; the last one of a tag wins. -/
def addControls (index : Index) (n : Nat) : List (String × String) → Index
  | [] => index
  | (tag, value) :: rest =>
    addControls { index with control := index.control.insert tag ⟨.control n, value⟩ } (n + 1) rest

/-- The index of a record. -/
def build (record : RecordView) (interest : Interest) : Index :=
  -- Fields in an alternate script that are not filed take a number as well.
  let index := addFields interest empty 0 (record.fields.filter fun f => interest.contains f.tag)
  if interest.control then addControls index 0 record.control else index

/-- The control field with a tag, if control fields were filed. -/
def controlField? (index : Index) (tag : String) : Option PlacedControl :=
  index.control[tag]?

/-- The fields with a tag in record order, without those in an alternate script. -/
def directFields (index : Index) (tag : String) : List PlacedField :=
  filed index.direct tag

/-- The fields in an alternate script that link to a tag, in record order. -/
def linkedFields (index : Index) (tag : String) : List PlacedField :=
  filed index.linked tag

/-- The direct fields whose tag satisfies `p`, in record order. -/
def directFieldsWhere (index : Index) (p : String → Bool) : List PlacedField :=
  ((index.direct.toList.filter fun b => p b.1).flatMap fun b => b.2.toList).mergeSort
    fun a b => a.origin.le b.origin

end Index

end MarcHarvest
