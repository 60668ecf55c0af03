import MarcHarvest.Pattern.Reader
import MarcHarvest.Pattern.Search
import MarcHarvest.Pattern.Size

/-!
# Filters

A filter reduces values by a pattern: its first match gives way to what the first group held.
-/

namespace MarcHarvest

/-- A pattern ready to search with. -/
structure Filter where
  pattern : Pattern
  program : Array Pattern.Step

namespace Filter

/-- The filter that a text writes. -/
def ofText? (text : String) : Option Filter := do
  let pattern ← Pattern.read? text
  if pattern.isAllowed then return ⟨pattern, (pattern.compile 0).toArray⟩ else none

/-- The value with its first match replaced by the first group, or by nothing if the group took no
part in the match. A value without a match stays as it is. -/
def apply (f : Filter) (value : String) : String :=
  match Pattern.search? f.program value.toList with
  | none => value
  | some m => String.ofList (m.before ++ m.group.getD [] ++ m.after)

end Filter

end MarcHarvest
