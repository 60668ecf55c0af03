import MarcHarvest.Record.Basic

/-!
# Alternate scripts

A field with tag 880 carries another field in its own script. Its first `$6` begins with the tag
of the field that it renders (`245-01/$1`).
-/

namespace MarcHarvest

/-- The tag of all fields in an alternate script. -/
def alternateTag : String := "880"

namespace Field

/-- Whether the field is in an alternate script. -/
def isAlternate (f : Field) : Bool := f.tag == alternateTag

/-- The tag that a link names: its first three characters, if it has as many. -/
def linkTarget? (link : String) : Option String :=
  match link.toList with
  | a :: b :: c :: _ => some (String.ofList [a, b, c])
  | _ => none

/-- The tag that the first `$6` of the field names. -/
def linkedTag? (f : Field) : Option String := (f.value? '6').bind linkTarget?

end Field

end MarcHarvest
