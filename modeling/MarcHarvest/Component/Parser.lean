import MarcHarvest.Component.Basic
import MarcHarvest.Error
import MarcHarvest.Text.Decimal

/-!
# Reading a component

`Component.parse` reads one component without expanding its tag: three characters of tag, then
indicators if a bar follows, then an offset if an opening bracket follows, otherwise codes. A bar
or a bracket commits the reader: what follows must be complete.
-/

namespace MarcHarvest.Component

open Text

/-- Puts the whole alphabet for each token that stands for it. -/
def expandLetters : List Char → List Char
  | '_' :: 'A' :: 'T' :: 'O' :: 'Z' :: '_' :: rest =>
    "abcdefghijklmnopqrstuvwxyz".toList ++ expandLetters rest
  | c :: rest => c :: expandLetters rest
  | [] => []

/-- Offsets are numbers of 64 bits: they are below this bound. -/
def offsetBound : Nat := 0x10000000000000000

/-- Reads a number below the bound; gives it and the rest. -/
def readNumber (l : List Char) : Except ComponentFault (Nat × List Char) :=
  let (digits, rest) := leadingDigits l
  if digits.isEmpty then .error (.digitExpected (String.ofList l))
  else if decimalValue digits < offsetBound then .ok (decimalValue digits, rest)
  else .error (.offsetTooLarge (String.ofList l))

/-- The last offset of a range, if a hyphen and a number follow the first. -/
def readRangeEnd? : List Char → Option (Nat × List Char)
  | '-' :: rest => (readNumber rest).toOption
  | _ => none

/-- The offset `o`, provided that a bracket closes it. -/
def closeOffset (o : Offset) : List Char → Except ComponentFault Offset
  | ']' :: _ => .ok o
  | rest => .error (.bracketExpected (String.ofList rest))

/-- Reads what follows an opening bracket: a range, or else a position. -/
def readOffset (l : List Char) : Except ComponentFault Offset := do
  let (first, rest) ← readNumber l
  match readRangeEnd? rest with
  | some (last, rest) => closeOffset (.range first last) rest
  | none => closeOffset (.position first) rest

/-- Reads the indicators, if a bar announces them. A second bar after them is optional. -/
def readIndicators : List Char →
    Except ComponentFault ((IndicatorCondition × IndicatorCondition) × List Char)
  | '|' :: i :: j :: '|' :: rest => .ok ((.ofChar i, .ofChar j), rest)
  | '|' :: i :: j :: rest => .ok ((.ofChar i, .ofChar j), rest)
  | '|' :: _ => .error .indicatorsTooShort
  | rest => .ok ((.any, .any), rest)

/-- Reads the last part: an offset if a bracket opens, otherwise codes. -/
def readSelector : List Char → Except ComponentFault (Selection × Option Offset)
  | '[' :: rest => (readOffset rest).map fun o => (.all, some o)
  | codes => .ok (.ofCodes codes, none)

/-- Reads a component whose letters are expanded. -/
def read : List Char → Except ComponentFault Component
  | a :: b :: c :: rest => do
    let ((ind1, ind2), rest) ← readIndicators rest
    let (selection, offset) ← readSelector rest
    return { tag := String.ofList [a, b, c], ind1, ind2, selection, offset }
  | short => .error (.tagTooShort (String.ofList short))

/-- Reads a component; the error names it as it was given. -/
def parse (component : String) : Except SpecError Component :=
  (read (expandLetters component.toList)).mapError (.malformedComponent component)

end MarcHarvest.Component
