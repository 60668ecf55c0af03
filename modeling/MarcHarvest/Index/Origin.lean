/-!
# Origins

Where a value comes from within its record. Origins order values: all control fields come before
all data fields, and within each kind the record's order holds.
-/

namespace MarcHarvest

/-- The place of a field in its record. -/
inductive Origin where
  /-- The control field number `n`. -/
  | control (n : Nat)
  /-- Number `n` of the data fields whose tag is of interest. -/
  | data (n : Nat)
  deriving Repr, DecidableEq

def Origin.le : Origin → Origin → Bool
  | control m, control n => m ≤ n
  | control _, data _ => true
  | data _, control _ => false
  | data m, data n => m ≤ n

end MarcHarvest
