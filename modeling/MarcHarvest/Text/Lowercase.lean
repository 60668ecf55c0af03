import MarcHarvest.Unicode.Casing

/-!
# Lower case of a text

Every character is lowered by itself except the capital sigma, whose small form at the end of a
word differs from the one inside.
-/

namespace MarcHarvest.Text

open Unicode

/-- Whether the nearest character that case rules do not skip has case. -/
def meetsCased (l : List Char) : Bool :=
  match l.dropWhile (isCaseIgnorable .v17) with
  | [] => false
  | c :: _ => isCased .v17 c

/-- The small sigma between `before` (nearest character first) and `after`. -/
def lowerSigma (before after : List Char) : Char :=
  if meetsCased before && !meetsCased after then 'ς' else 'σ'

/-- Lowers the second list; the first holds the characters before it, nearest first. -/
def lowercaseAfter (before : List Char) : List Char → List Char
  | [] => []
  | c :: rest =>
    (if c = 'Σ' then [lowerSigma before rest] else lowerChar c)
      ++ lowercaseAfter (c :: before) rest

/-- A text in lower case. -/
def lowercase (s : String) : String := String.ofList (lowercaseAfter [] s.toList)

end MarcHarvest.Text
