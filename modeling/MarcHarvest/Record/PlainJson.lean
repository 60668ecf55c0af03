import MarcHarvest.Json.Parser
import MarcHarvest.Json.Shape
import MarcHarvest.Record.Basic

/-!
# Records as plain JSON

The form in which a record is stored: each structure of the model as an object of its parts. It
keeps everything, also what MARC-in-JSON could not hold.
-/

namespace MarcHarvest

namespace Subfield

/-- A subfield as an object. -/
def toJson (s : Subfield) : Json :=
  .object [("code", .text s.code.toString), ("value", .text s.value)]

/-- The subfield that a value holds. -/
def ofJson? (j : Json) : Option Subfield := do
  match ← j.parts? ["code", "value"] with
  | [code, value] => return ⟨← Json.required Json.char? code, ← Json.required Json.text? value⟩
  | _ => none

end Subfield

namespace Field

/-- A data field as an object. -/
def toJson (f : Field) : Json :=
  .object [
    ("tag", .text f.tag),
    ("indicator1", .text f.ind1.toString),
    ("indicator2", .text f.ind2.toString),
    ("subfields", .array (f.subfields.map Subfield.toJson))]

/-- The data field that a value holds. -/
def ofJson? (j : Json) : Option Field := do
  match ← j.parts? ["tag", "indicator1", "indicator2", "subfields"] with
  | [tag, ind1, ind2, subfields] =>
    return {
      tag := ← Json.required Json.text? tag
      ind1 := ← Json.required Json.char? ind1
      ind2 := ← Json.required Json.char? ind2
      subfields := ← Json.required (Json.listOf? Subfield.ofJson?) subfields }
  | _ => none

end Field

namespace Record

/-- A record as an object. -/
def toJson (r : Record) : Json :=
  .object [
    ("leader", .text r.leader),
    ("control_fields", .object (r.control.entries.map fun e => (e.1, .text e.2))),
    ("fields", .array (r.fields.map Field.toJson))]

/-- The record that a value holds. -/
def ofJson? (j : Json) : Option Record := do
  match ← j.parts? ["leader", "control_fields", "fields"] with
  | [leader, control, fields] =>
    return ofParts
      (← Json.required Json.text? leader)
      (← Json.required Json.textMembers? control)
      (← Json.required (Json.listOf? Field.ofJson?) fields)
  | _ => none

/-- The record that a text holds. -/
def ofJsonText? (text : String) : Option Record := (Json.parse? text).bind ofJson?

end Record

end MarcHarvest
