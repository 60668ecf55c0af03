/-!
# Sets of code points

A set is a list of ranges and a list of alternating ranges: blocks in which capitals and small
letters take turns are written in one entry.
-/

namespace MarcHarvest.Unicode

/-- Code points given by ranges, ends included. Of an alternating range only the first, third,
fifth, … code point belongs to the set. -/
structure CodeSet where
  ranges : List (Nat × Nat)
  alternating : List (Nat × Nat) := []

namespace CodeSet

def contains (s : CodeSet) (n : Nat) : Bool :=
  s.ranges.any (fun r => r.1 ≤ n && n ≤ r.2) ||
    s.alternating.any (fun r => r.1 ≤ n && n ≤ r.2 && (n - r.1) % 2 == 0)

def has (s : CodeSet) (c : Char) : Bool := s.contains c.toNat

end CodeSet

end MarcHarvest.Unicode
