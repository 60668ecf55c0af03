import MarcHarvest.Json.Parser

/-!
# Plain values

A value is plain if all of it can be kept: no text in it is broken, every number has a finite
double next to it, and values do not nest too deep.
-/

namespace MarcHarvest

namespace JsonNumber

/-- Half a step above the greatest finite double: products from here on are infinite. -/
def overflowBound : Nat := Nat.pow 2 1024 - Nat.pow 2 970

/-- The nearest number with at most 53 binary digits before its zeros; between two, the one whose
last digit is even. -/
def roundTo53 (n : Nat) : Nat :=
  let unit := Nat.pow 2 (n.log2 + 1 - 53)
  let below := n / unit
  let twice := 2 * (n % unit)
  if unit < twice ∨ (twice = unit ∧ below % 2 = 1) then (below + 1) * unit else below * unit

/-- Drops decimal digits at the end of `m · 10 ^ e` until the rest fits 64 bits. -/
def dropDigits (m : Nat) (e : Int) : Nat × Int :=
  if m < 0x10000000000000000 then (m, e) else dropDigits (m / 10) (e + 1)
termination_by m

/-- Whether a double can hold the number. The leading digits and the power of ten are rounded to
doubles, and their product has to be finite. -/
def isFinite (x : JsonNumber) : Bool :=
  let (m, e) := dropDigits x.mantissa x.exponent
  m = 0 || e ≤ 0 ||
    (e ≤ 308 && roundTo53 m * roundTo53 (Nat.pow 10 e.toNat) < overflowBound)

end JsonNumber

namespace Json

/-- Arrays and objects may nest as deep as this. -/
def maxDepth : Nat := 127

mutual

/-- Whether a value is plain and nests at most `depth` deep. -/
def isPlain (depth : Nat) : Json → Bool
  | null => true
  | bool _ => true
  | number x => x.isFinite
  | text _ => true
  | array items => 0 < depth && arePlain (depth - 1) items
  | object members => 0 < depth && havePlainValues (depth - 1) members
  | broken => false

/-- Whether all items are plain. -/
def arePlain (depth : Nat) : List Json → Bool
  | [] => true
  | j :: rest => j.isPlain depth && arePlain depth rest

/-- Whether the values of all members are plain. -/
def havePlainValues (depth : Nat) : List (String × Json) → Bool
  | [] => true
  | (_, j) :: rest => j.isPlain depth && havePlainValues depth rest

end

/-- The value that a text writes, if it is plain. -/
def parsePlain? (text : String) : Option Json := (parse? text).filter fun j => j.isPlain maxDepth

end Json

end MarcHarvest
