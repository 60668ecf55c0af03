import MarcHarvest.Extractor.Basic
import MarcHarvest.Json.Bytes

/-!
# Batches

Extractors that run together share one index for each record. A batch is written as a JSON array of
configurations, and it is compiled as a whole: one that is wrong makes all of it wrong.
-/

namespace MarcHarvest

/-- Compiled extractors and the names of languages that they use. -/
structure Batch where
  extractors : List Extractor
  languages : LanguageTable := .standard

namespace Batch

/-- What the batch reads. -/
def interest (b : Batch) : Interest := Extractor.interestOf b.extractors

/-- The batch of some configurations; the error is that of the first one that has one. -/
def ofConfigs (configs : List Config) : Except SpecError Batch := do
  return { extractors := ← configs.mapM Config.compile }

/-- The batch that a document describes, if it could be read at all. -/
def ofDocument (document : Option Json) : Except SpecError Batch :=
  match document.bind (Json.listOf? Config.ofJson?) with
  | some configs => ofConfigs configs
  | none => .error .unreadable

/-- The batch that a text describes. -/
def ofText (text : String) : Except SpecError Batch := ofDocument (Json.parse? text)

/-- The batch that bytes describe. -/
def ofBytes (bytes : ByteArray) : Except SpecError Batch := ofDocument (Json.parseBytes? bytes)

/-- The same extractors with other names of languages. -/
def withLanguages (b : Batch) (languages : LanguageTable) : Batch := { b with languages }

/-- Adds the values of an extractor to the output, unless there are none. -/
def addOutput (b : Batch) (index : Index) (output : OrderedMap String (List String))
    (e : Extractor) : OrderedMap String (List String) :=
  match e.values index b.languages with
  | [] => output
  | values => output.insert e.name values

/-- The values that all extractors find in a record, by name. A name keeps its first place and
takes the last values that are not empty. -/
def run (b : Batch) (record : RecordView) : OrderedMap String (List String) :=
  b.extractors.foldl (b.addOutput (.build record b.interest)) ∅

end Batch

end MarcHarvest
