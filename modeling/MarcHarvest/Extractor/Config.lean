import MarcHarvest.Derivation.Basic
import MarcHarvest.Json.Shape

/-!
# Configurations of extractors

An extractor as it is declared: a name, a field spec and options. In JSON a configuration is an
object whose keys can be left out except for the name, or an array of its values.
-/

namespace MarcHarvest

/-- Which fields count for a tag: those with the tag, those in an alternate script that link to
it, or both. -/
inductive ScriptInclusion where
  | none
  | both
  | only
  deriving Repr, DecidableEq

namespace ScriptInclusion

def identifier : ScriptInclusion → String
  | none => "NONE"
  | both => "BOTH"
  | only => "ONLY"

def ofIdentifier? (s : String) : Option ScriptInclusion :=
  [none, both, only].find? fun m => m.identifier == s

/-- Whether fields with the tag itself count. -/
def includesDirect : ScriptInclusion → Bool
  | only => false
  | _ => true

/-- Whether fields that link to the tag count. -/
def includesLinked : ScriptInclusion → Bool
  | none => false
  | _ => true

/-- Reads a mode: its name, or an object from its name to null. -/
def ofJson? : Json → Option ScriptInclusion
  | .text s => ofIdentifier? s
  | .object [(s, .null)] => ofIdentifier? s
  | _ => Option.none

end ScriptInclusion

/-- The declaration of an extractor. -/
structure Config where
  /-- The name under which the values come out. -/
  name : String
  fieldSpec : Option String := none
  scripts : Option ScriptInclusion := none
  /-- Whether values from data fields lose their final punctuation. -/
  trims : Bool := true
  /-- A pattern whose first match in a value gives way to its first group. -/
  filter : Option String := none
  /-- What stands between subfields in one value. -/
  delimiter : String := " "
  /-- The identifier of a derivation. -/
  function : Option String := none
  /-- Whether joined subfields keep their order of storage. -/
  keepsOrder : Bool := false
  deriving Repr, DecidableEq

namespace Config

/-- The keys of a configuration in the order of its values. -/
def keys : List String :=
  ["name", "fieldSpec", "scriptInclusion", "trimPunctuation", "filter", "delimiter",
    "extractFunction", "keepSubfieldOrder"]

/-- A configuration as an object with all its keys. -/
def toJson (c : Config) : Json :=
  .object [
    ("name", .text c.name),
    ("fieldSpec", .ofText? c.fieldSpec),
    ("scriptInclusion", .ofText? (c.scripts.map ScriptInclusion.identifier)),
    ("trimPunctuation", .bool c.trims),
    ("filter", .ofText? c.filter),
    ("delimiter", .text c.delimiter),
    ("extractFunction", .ofText? c.function),
    ("keepSubfieldOrder", .bool c.keepsOrder)]

/-- The configuration that a value holds. -/
def ofJson? (j : Json) : Option Config := do
  match ← j.parts? keys with
  | [name, fieldSpec, scripts, trims, filter, delimiter, function, keepsOrder] =>
    return {
      name := ← Json.required Json.text? name
      fieldSpec := ← Json.withDefault none (Json.nullable Json.text?) fieldSpec
      scripts := ← Json.withDefault none (Json.nullable ScriptInclusion.ofJson?) scripts
      trims := ← Json.withDefault true Json.bool? trims
      filter := ← Json.withDefault none (Json.nullable Json.text?) filter
      delimiter := ← Json.withDefault " " Json.text? delimiter
      function := ← Json.withDefault none (Json.nullable Json.text?) function
      keepsOrder := ← Json.withDefault false Json.bool? keepsOrder }
  | _ => none

end Config

end MarcHarvest
