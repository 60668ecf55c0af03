import MarcHarvest.Derivation.Distinct
import MarcHarvest.Derivation.LanguageCodes
import MarcHarvest.Error
import MarcHarvest.Json.Parser
import MarcHarvest.Json.Shape
import MarcHarvest.OrderedMap
import MarcHarvest.Text.Split

/-!
# Language names

Values that hold language codes, alone, run together (`engfre`) or between commas, become the
names of the languages, each once.
-/

namespace MarcHarvest

/-- Names of languages by code. -/
structure LanguageTable where
  names : OrderedMap String String

namespace LanguageTable

/-- A table of pairs of code and name. The last name of a code wins. -/
def ofPairs (pairs : List (String × String)) : LanguageTable := ⟨OrderedMap.ofList pairs⟩

/-- The table that a text holds: a JSON object from codes to names. -/
def ofText (text : String) : Except SpecError LanguageTable :=
  match (Json.parse? text).bind Json.textMembers? with
  | some pairs => .ok (ofPairs pairs)
  | none => .error .invalidLanguageTable

/-- The table of the standard codes. -/
def standard : LanguageTable := ofPairs languageCodes

instance : Inhabited LanguageTable := ⟨standard⟩

def size (t : LanguageTable) : Nat := t.names.size

def isEmpty (t : LanguageTable) : Bool := t.size == 0

def name? (t : LanguageTable) (code : String) : Option String := t.names.get? code

/-- The name of a code; a code without a name stands for itself. -/
def nameOrCode (t : LanguageTable) (code : String) : String := (t.name? code).getD code

/-- The codes in a value: the threes of characters of each piece between commas. -/
def codesIn (value : String) : List String :=
  (Text.splitOn ',' value.toList).flatMap fun item => (Text.triples item).map String.ofList

/-- The names of all codes in the values, in order, each once. -/
def namesIn (t : LanguageTable) (values : List String) : List String :=
  addAllDistinct [] ((values.flatMap codesIn).map t.nameOrCode)

end LanguageTable

end MarcHarvest
