/-!
# Trimming

Cutting a text at its ends. `trimBlanks` drops what catalogue systems treat as blank: the space
and every character before it in code point order.
-/

namespace MarcHarvest.Text

/-- Drops the characters at the end that satisfy `p`. -/
def dropEndWhile (p : Char → Bool) (l : List Char) : List Char :=
  (l.reverse.dropWhile p).reverse

/-- Spaces and control characters below the space. -/
def isBlank (c : Char) : Bool := c.toNat ≤ 0x20

/-- Drops blanks at both ends. -/
def trimBlanks (l : List Char) : List Char := dropEndWhile isBlank (l.dropWhile isBlank)

end MarcHarvest.Text
