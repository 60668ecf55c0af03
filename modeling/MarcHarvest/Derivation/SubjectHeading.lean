import MarcHarvest.Derivation.Distinct
import MarcHarvest.Index.Basic
import MarcHarvest.Text.Punctuation

/-!
# Subject headings

Each field with a tag from 600 to 699 gives one heading. Its main part joins the subfields that
are usual for the tag and stands where the first of them stands; every subdivision stands by
itself. The parts follow the order of the field.
-/

namespace MarcHarvest.SubjectHeading

open Text

/-- Whether a tag is a six and two digits. -/
def isSubject (tag : String) : Bool :=
  match tag.toList with
  | ['6', a, b] => a.isDigit && b.isDigit
  | _ => false

def tags : List String := (List.range 100).map fun n => Nat.repr (600 + n)

/-- The codes of the main part for a tag. -/
def mainCodes? (tag : String) : Option String :=
  if tag ∈ ["600", "692"] then some "abcdgjq"
  else if tag = "610" then some "abcdfgt"
  else if tag = "611" then some "acdegnqu"
  else if tag ∈ ["630", "695"] then some "adfhklmnoprst"
  else if tag ∈ ["650", "690", "693"] then some "abcdg"
  else if tag ∈ ["651", "691"] then some "abcdfgh"
  else if tag = "694" then some "acdgnqu"
  else none

/-- The codes of subdivisions: form, topic, time and place. -/
def subdivisionCodes : List Char := ['v', 'x', 'y', 'z']

/-- A part of a heading with its position in the field. -/
abbrev Part := Nat × String

/-- A part, if anything is left of its text without punctuation. -/
def part? (position : Nat) (text : String) : Option Part :=
  let value := trimPunctuation text
  if value.isEmpty then none else some (position, value)

/-- The subfields of a field that satisfy `p`, with their positions. -/
def placed (p : Char → Bool) (f : Field) : List (Subfield × Nat) :=
  f.subfields.zipIdx.filter fun s => p s.1.code

def mainPart? (f : Field) : Option Part := do
  let codes ← mainCodes? f.tag
  let found := placed (fun c => codes.toList.contains c) f
  let first ← found.head?
  part? first.2 (" ".intercalate (found.map fun s => s.1.value))

/-- The subdivisions of a heading, code by code. -/
def subdivisions (f : Field) : List Part :=
  subdivisionCodes.flatMap fun code =>
    (placed (· == code) f).filterMap fun s => part? s.2 s.1.value

/-- The heading of a field, its parts in the order of the field. -/
def heading? (f : Field) : Option String :=
  match (mainPart? f).toList ++ subdivisions f with
  | [] => none
  | parts => some (" > ".intercalate ((parts.mergeSort fun a b => a.1 ≤ b.1).map Prod.snd))

/-- The values with the headings of all subject fields that are not among them. -/
def addHeadings (index : Index) (values : List String) : List String :=
  addAllDistinct values
    ((index.directFieldsWhere isSubject).filterMap fun e => heading? e.field)

end MarcHarvest.SubjectHeading
