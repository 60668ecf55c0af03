import MarcHarvest.Error
import MarcHarvest.Json.Plain
import MarcHarvest.Record.Basic

/-!
# MARC-in-JSON

The exchange format for records: an object with a leader and an array of fields, each an object
from a tag to a text (control fields, the tags below 010) or to indicators and subfields. Reading
keeps the order of the array; within one object keys count in the order of their code points.
-/

namespace MarcHarvest.Record

/-! ## Writing -/

/-- A subfield as an object from its code to its value. -/
def subfieldToJson (s : Subfield) : Json := .object [(s.code.toString, .text s.value)]

/-- A data field as an object from its tag to its content. -/
def fieldToJson (f : Field) : Json :=
  .object [(f.tag, .object [
    ("ind1", .text f.ind1.toString),
    ("ind2", .text f.ind2.toString),
    ("subfields", .array (f.subfields.map subfieldToJson))])]

/-- A control field as an object from its tag to its payload. -/
def controlToJson (c : String × String) : Json := .object [(c.1, .text c.2)]

/-- A record in MARC-in-JSON, control fields first. -/
def toMarcJson (r : Record) : Json :=
  .object [
    ("leader", .text r.leader),
    ("fields", .array (r.control.entries.map controlToJson ++ r.fields.map fieldToJson))]

/-! ## Reading -/

/-- Whether an entry with this tag is a control field. -/
def isControlEntry (tag : String) : Bool := tag < "010"

/-- The indicator with a key: the first character of its text, or a blank. -/
def readIndicator (key : String) (members : List (String × Json)) : Char :=
  (((Json.lookup? key members).bind Json.text?).bind fun s => s.toList.head?).getD ' '

/-- One subfield: the first character of the key is its code. -/
def readSubfield (tag : String) (member : String × Json) : Except RecordError Subfield :=
  match member.1.toList, member.2 with
  | code :: _, .text value => .ok ⟨code, value⟩
  | _, _ => .error (.invalidSubfield member.1 tag)

/-- The subfields of one object. -/
def readSubfields (tag : String) (j : Json) : Except RecordError (List Subfield) :=
  match j.orderedMembers? with
  | some members => members.mapM (readSubfield tag)
  | none => .error (.subfieldNotAnObject tag)

/-- A data field from its content. -/
def readField (tag : String) (j : Json) : Except RecordError Field :=
  match j.orderedMembers? with
  | none => .error (.fieldNotAnObject tag)
  | some members =>
    match (Json.lookup? "subfields" members).bind Json.items? with
    | none => .error (.missingSubfields tag)
    | some items => do
      let subfields ← items.mapM (readSubfields tag)
      return ⟨tag, readIndicator "ind1" members, readIndicator "ind2" members, subfields.flatten⟩

/-- Adds the field that one member of an entry holds. -/
def readMember (r : Record) (member : String × Json) : Except RecordError Record :=
  let (tag, j) := member
  if tag.length ≠ 3 then .error (.invalidTag tag)
  else if isControlEntry tag then
    match j with
    | .text value => .ok (r.addControl tag value)
    | _ => .error (.controlNotText tag)
  else (readField tag j).map r.addField

/-- Adds the fields of one entry. -/
def readEntry (r : Record) (entry : Json) : Except RecordError Record :=
  match entry.orderedMembers? with
  | some members => members.foldlM readMember r
  | none => .error .entryNotAnObject

/-- The record that a value in MARC-in-JSON holds. -/
def ofMarcJson (j : Json) : Except RecordError Record :=
  match j.orderedMembers? with
  | none => .error .notAnObject
  | some members =>
    let leader := ((Json.lookup? "leader" members).bind Json.text?).getD defaultLeader
    match (Json.lookup? "fields" members).bind Json.items? with
    | none => .error .missingFields
    | some entries => entries.foldlM readEntry (blank leader)

/-- The record that a text in MARC-in-JSON holds. -/
def ofMarcJsonText (text : String) : Except RecordError Record :=
  match Json.parsePlain? text with
  | some j => ofMarcJson j
  | none => .error .invalidJson

end MarcHarvest.Record
