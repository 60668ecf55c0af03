/-!
# Decimal numbers

Natural numbers as lists of ASCII digits.
-/

namespace MarcHarvest.Text

/-- The value of a digit. -/
def digitValue (c : Char) : Nat := c.toNat - '0'.toNat

/-- The number that a list of digits writes. -/
def decimalValue (l : List Char) : Nat := l.foldl (fun n c => 10 * n + digitValue c) 0

/-- The digits at the start of a text, and what follows them. -/
def leadingDigits (l : List Char) : List Char × List Char :=
  (l.takeWhile Char.isDigit, l.dropWhile Char.isDigit)

end MarcHarvest.Text
