import MarcHarvest.OrderedMap
import MarcHarvest.Unicode.Property

/-!
# Bibliographic records

A record has a leader, control fields (one payload for each tag) and data fields in their physical
order. A `RecordView` is all that extraction sees of a record: the control fields as a list of
pairs and the list of data fields.
-/

namespace MarcHarvest

/-- A piece of data within a field. -/
structure Subfield where
  code : Char
  value : String
  deriving Repr, DecidableEq, Inhabited

/-- A data field: a tag, two indicators and subfields in their order of storage. -/
structure Field where
  tag : String
  ind1 : Char
  ind2 : Char
  subfields : List Subfield := []
  deriving Repr, DecidableEq, Inhabited

/-- A record. Control fields keep the order in which their tags were first added. -/
structure Record where
  leader : String
  control : OrderedMap String String
  fields : List Field
  deriving Repr, DecidableEq

/-- What extraction reads: control fields and data fields in record order. -/
structure RecordView where
  control : List (String × String)
  fields : List Field
  deriving Repr, DecidableEq

/-- What a strict look-up did not find. -/
inductive Missing where
  | field
  | subfield
  deriving Repr, DecidableEq

/-- The report of a failed strict look-up. -/
def Missing.message : Missing → String
  | .field => "field not found"
  | .subfield => "subfield not found"

namespace Field

/-- The values of all subfields, in order of storage. -/
def values (f : Field) : List String := f.subfields.map Subfield.value

/-- The values of the subfields with this code, in order of storage. -/
def valuesOf (f : Field) (code : Char) : List String :=
  (f.subfields.filter fun s => s.code == code).map Subfield.value

/-- The first value of a code. -/
def value? (f : Field) (code : Char) : Option String :=
  (f.subfields.find? fun s => s.code == code).map Subfield.value

/-- The first value of a code that has to be there. -/
def value (f : Field) (code : Char) : Except Missing String :=
  match f.value? code with
  | some v => .ok v
  | none => .error .subfield

/-- The values of the subfields with an alphabetic code. -/
def alphabeticValues (f : Field) : List String :=
  (f.subfields.filter fun s => Unicode.isAlphabetic .v17 s.code).map Subfield.value

/-- The values of the subfields whose code is in `codes`, joined by spaces; nothing if no code
occurs. -/
def joined? (f : Field) (codes : String) : Option String :=
  match (f.subfields.filter fun s => codes.toList.contains s.code).map Subfield.value with
  | [] => none
  | vs => some (" ".intercalate vs)

/-- Writes a value to the first subfield of a code, or to a new one at the end. -/
def setSubfields (code : Char) (value : String) : List Subfield → List Subfield
  | [] => [⟨code, value⟩]
  | s :: rest =>
    if s.code = code then { s with value } :: rest else s :: setSubfields code value rest

/-- Sets the first value of a code. -/
def set (f : Field) (code : Char) (value : String) : Field :=
  { f with subfields := setSubfields code value f.subfields }

end Field

namespace Record

/-- The leader of a record that brings none. -/
def defaultLeader : String := "00000nam a2200000 a 4500"

def blank (leader : String) : Record := ⟨leader, ∅, []⟩

instance : Inhabited Record := ⟨blank defaultLeader⟩

/-- Adds a control field, or replaces the payload of its tag in place. -/
def addControl (r : Record) (tag value : String) : Record :=
  { r with control := r.control.insert tag value }

/-- Adds a data field after all others. -/
def addField (r : Record) (f : Field) : Record := { r with fields := r.fields ++ [f] }

/-- A record from its parts: control fields are added one after the other. -/
def ofParts (leader : String) (control : List (String × String)) (fields : List Field) : Record :=
  ⟨leader, OrderedMap.ofList control, fields⟩

def control? (r : Record) (tag : String) : Option String := r.control.get? tag

def fieldsTagged (r : Record) (tag : String) : List Field := r.fields.filter fun f => f.tag == tag

/-- The first data field with a tag. -/
def field? (r : Record) (tag : String) : Option Field := r.fields.find? fun f => f.tag == tag

/-- The first data field with a tag that has to be there. -/
def field (r : Record) (tag : String) : Except Missing Field :=
  match r.field? tag with
  | some f => .ok f
  | none => .error .field

/-- Sets a subfield in the first field with a tag, or in a new field with blank indicators at the
end. -/
def setInFields (tag : String) (code : Char) (value : String) : List Field → List Field
  | [] => [⟨tag, ' ', ' ', [⟨code, value⟩]⟩]
  | f :: rest =>
    if f.tag = tag then f.set code value :: rest else f :: setInFields tag code value rest

/-- Sets the first value of a code in the first field with a tag. -/
def setSubfield (r : Record) (tag : String) (code : Char) (value : String) : Record :=
  { r with fields := setInFields tag code value r.fields }

/-- What extraction reads of the record. -/
def view (r : Record) : RecordView := ⟨r.control.entries, r.fields⟩

/-- Whether two records have the same content; the order of control fields is no content. -/
def sameContent (r s : Record) : Bool :=
  r.leader == s.leader && r.control.sameEntries s.control && r.fields == s.fields

end Record

end MarcHarvest
