import MarcHarvest.Text.Quoted

/-!
# Faults of components

What can be wrong with the text of a component, and where: each fault but one carries the rest of
the text from the place at which something else was expected.
-/

namespace MarcHarvest

/-- The cause for which a component is refused. -/
inductive ComponentFault where
  /-- Fewer than three characters. -/
  | tagTooShort (rest : String)
  /-- Fewer than two characters after a bar. -/
  | indicatorsTooShort
  /-- No digit after an opening bracket. -/
  | digitExpected (rest : String)
  /-- An offset that needs more than 64 bits. -/
  | offsetTooLarge (rest : String)
  /-- No closing bracket after an offset. -/
  | bracketExpected (rest : String)
  deriving Repr, DecidableEq

namespace ComponentFault

/-- What a fault means for the reading of a spec: a short tag is an error after which another
reading could be tried, everything later a failure. -/
def outcome : ComponentFault → String
  | tagTooShort _ => "Error"
  | _ => "Failure"

/-- The text that was left when the fault was found. -/
def rest : ComponentFault → String
  | indicatorsTooShort => ""
  | tagTooShort rest | digitExpected rest | offsetTooLarge rest | bracketExpected rest => rest

/-- The kind of expectation that was not met. -/
def code : ComponentFault → String
  | tagTooShort _ | indicatorsTooShort => "Eof"
  | digitExpected _ => "Digit"
  | offsetTooLarge _ => "MapRes"
  | bracketExpected _ => "Char"

def message (f : ComponentFault) : String :=
  "Parsing " ++ f.outcome ++ ": Error \x7b input: " ++ Text.quote f.rest ++ ", code: " ++ f.code
    ++ " \x7d"

end ComponentFault

end MarcHarvest
