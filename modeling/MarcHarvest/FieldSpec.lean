import MarcHarvest.Component.Parser
import MarcHarvest.Text.Split

/-!
# Field specs

A field spec is a list of components between colons. An `X` in the second place of a tag stands for
the hundred tags that begin like it, an `X` in the third place alone for ten.
-/

namespace MarcHarvest

namespace Component

/-- A component once for each tag that its tag stands for. -/
def expand (c : Component) : List Component :=
  match c.tag.toList with
  | [a, 'X', _] =>
    (List.range 100).map fun n =>
      { c with tag := String.ofList [a, Nat.digitChar (n / 10), Nat.digitChar (n % 10)] }
  | [a, b, 'X'] =>
    (List.range 10).map fun n => { c with tag := String.ofList [a, b, Nat.digitChar n] }
  | _ => [c]

end Component

namespace FieldSpec

/-- The components of a spec as texts. Empty ones do not count. -/
def parts (spec : String) : List String :=
  ((Text.splitOn ':' spec.toList).filter fun p => !p.isEmpty).map String.ofList

/-- The components of a spec in order, tags expanded; the error is that of the first component
that has one. -/
def compile (spec : String) : Except SpecError (List Component) := do
  let components ← (parts spec).mapM Component.parse
  return components.flatMap Component.expand

end FieldSpec

end MarcHarvest
