import MarcHarvest.Component.Fault

/-!
# Errors

Everything that can go wrong does so before a record is read: a specification is refused, or the
input is no record. Running an extraction has no errors.
-/

namespace MarcHarvest

open Text

/-- The cause for which a specification is refused. -/
inductive SpecError where
  /-- A document that is no list of extractor definitions. -/
  | unreadable
  | invalidLanguageTable
  | invalidFilter (extractor : String)
  | malformedComponent (component : String) (fault : ComponentFault)
  | unknownFunction (identifier : String)
  deriving Repr, DecidableEq

/-- The cause for which an input is not taken for a record. -/
inductive RecordError where
  | invalidJson
  | notAnObject
  | missingFields
  | entryNotAnObject
  | invalidTag (tag : String)
  | controlNotText (tag : String)
  | fieldNotAnObject (tag : String)
  | missingSubfields (tag : String)
  | subfieldNotAnObject (tag : String)
  | invalidSubfield (code tag : String)
  deriving Repr, DecidableEq

/-- What the library reports. -/
inductive Error where
  | spec (cause : SpecError)
  | record (cause : RecordError)
  deriving Repr, DecidableEq

def SpecError.message : SpecError → String
  | unreadable => "unable to read extraction spec"
  | invalidLanguageTable => "invalid language table"
  | invalidFilter extractor => "unable to parse filter of extractor " ++ quote extractor
  | malformedComponent component fault =>
    "malformed field spec component " ++ quote component ++ ": " ++ fault.message
  | unknownFunction identifier => "unknown extract function " ++ quote identifier

def RecordError.message : RecordError → String
  | invalidJson => "invalid JSON"
  | notAnObject => "expected a JSON object"
  | missingFields => "missing fields array"
  | entryNotAnObject => "field entry must be an object"
  | invalidTag tag => "invalid tag " ++ quote tag
  | controlNotText tag => "control field " ++ tag ++ " must be a string"
  | fieldNotAnObject tag => "field " ++ tag ++ " must be an object"
  | missingSubfields tag => "field " ++ tag ++ " has no subfields array"
  | subfieldNotAnObject tag => "subfield of " ++ tag ++ " must be an object"
  | invalidSubfield code tag =>
    "subfield " ++ quote code ++ " of " ++ tag ++ " must map a code to a string"

def Error.message : Error → String
  | spec cause => "Invalid extraction spec: " ++ cause.message
  | record cause => "Invalid MARC record: " ++ cause.message

end MarcHarvest
