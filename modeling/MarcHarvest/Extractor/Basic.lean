import MarcHarvest.Extractor.Config
import MarcHarvest.FieldSpec
import MarcHarvest.Filter
import MarcHarvest.Text.Join

/-!
# Extractors

A compiled extractor collects values from an index, component by component, each with the origin of
the field that it comes from, and then sorts them by origin: values come out in record order,
control fields first, and for one field in the order of the components.
-/

namespace MarcHarvest

/-- A compiled extractor. -/
structure Extractor where
  name : String
  components : List Component
  scripts : ScriptInclusion
  trims : Bool
  filter : Option Filter
  delimiter : String
  derivation : Option Derivation
  keepsOrder : Bool

/-- A setting that is not empty. -/
def setting (s : Option String) : Option String := s.filter fun s => !s.isEmpty

/-- The extractor that a configuration declares. A fault of the field spec is reported before one
of the filter, and that before an unknown function. An empty filter or function is none. -/
def Config.compile (c : Config) : Except SpecError Extractor := do
  let components ← match c.fieldSpec with
    | some spec => FieldSpec.compile spec
    | none => .ok []
  let filter ← match setting c.filter with
    | some text => match Filter.ofText? text with
      | some f => .ok (some f)
      | none => .error (.invalidFilter c.name)
    | none => .ok none
  let derivation ← match setting c.function with
    | some identifier => (Derivation.ofIdentifier identifier).map some
    | none => .ok none
  return {
    name := c.name, components, scripts := c.scripts.getD .both, trims := c.trims, filter,
    delimiter := c.delimiter, derivation, keepsOrder := c.keepsOrder }

/-- The characters of a payload that an offset selects. A range needs its first offset to be there
and below its last. -/
def Offset.select? : Offset → List Char → Option (List Char)
  | position n, l => l[n]?.map fun c => [c]
  | range first last, l =>
    if first < last ∧ first < l.length then some ((l.drop first).take (last + 1 - first))
    else none

namespace Extractor

/-- A value and where it comes from. -/
abbrev Found := Origin × String

/-- The value that a component finds among the control fields. -/
def controlValues (c : Component) (index : Index) : List Found :=
  match index.controlField? c.tag with
  | none => []
  | some entry => match c.offset with
    | none => [(entry.origin, entry.value)]
    | some offset =>
      (offset.select? entry.value.toList).toList.map fun l => (entry.origin, String.ofList l)

/-- The subfields with one of the codes, in the order of the codes or in that of storage. -/
def selectJoined (keepsOrder : Bool) (codes : String) (f : Field) : List Subfield :=
  let codes := codes.toList
  let selected := f.subfields.filter fun s => codes.contains s.code
  if keepsOrder then selected
  else selected.mergeSort fun a b => codes.idxOf a.code ≤ codes.idxOf b.code

/-- The texts that a selection takes from a field. None of them is empty. -/
def select (e : Extractor) (selection : Selection) (f : Field) : List String :=
  match selection with
  | .all => (Text.joinNonEmpty? e.delimiter f.alphabeticValues).toList
  | .each code => Text.nonEmpty (f.valuesOf code)
  | .joined codes =>
    (Text.joinNonEmpty? e.delimiter
      ((selectJoined e.keepsOrder codes f).map Subfield.value)).toList

/-- A text as it comes out: trimmed, then filtered. -/
def finish (e : Extractor) (text : String) : String :=
  let text := if e.trims then Text.trimPunctuation text else text
  match e.filter with
  | some f => f.apply text
  | none => text

def fieldValues (e : Extractor) (c : Component) (f : Field) : List String :=
  if c.acceptsIndicators f then (e.select c.selection f).map e.finish else []

/-- The data fields that a component reads. -/
def entries (e : Extractor) (c : Component) (index : Index) : List PlacedField :=
  (if e.scripts.includesDirect then index.directFields c.tag else [])
    ++ (if e.scripts.includesLinked then index.linkedFields c.tag else [])

def componentValues (e : Extractor) (index : Index) (c : Component) : List Found :=
  if c.isControl then controlValues c index
  else (e.entries c index).flatMap fun entry =>
    (e.fieldValues c entry.field).map fun v => (entry.origin, v)

def selectedValues (e : Extractor) (index : Index) : List String :=
  ((e.components.flatMap (e.componentValues index)).mergeSort fun a b => a.1.le b.1).map Prod.snd

/-- The values of an extractor. The index must hold what the extractor is interested in. -/
def values (e : Extractor) (index : Index) (languages : LanguageTable) : List String :=
  match e.derivation with
  | some d => d.apply index languages (e.selectedValues index)
  | none => e.selectedValues index

/-- The interest that includes what a component reads. -/
def addComponentInterest (interest : Interest) (c : Component) : Interest :=
  if c.isControl then interest.requireControl else interest.addTag c.tag

/-- The interest that includes what an extractor reads. -/
def addInterest (interest : Interest) (e : Extractor) : Interest :=
  let interest := e.components.foldl addComponentInterest interest
  match e.derivation with
  | some d => d.addInterest interest
  | none => interest

/-- What extractors read together. -/
def interestOf (extractors : List Extractor) : Interest := extractors.foldl addInterest .least

/-- The values of one extractor on one record, with the standard names of languages. -/
def run (e : Extractor) (record : RecordView) : List String :=
  e.values (.build record (interestOf [e])) .standard

end Extractor

end MarcHarvest
