import MarcHarvest.Json.Basic
import MarcHarvest.Text.Decimal

/-!
# Reading JSON

`Json.parse?` accepts exactly the JSON grammar around one value. Broken texts are accepted as
`Json.broken`; whoever reads such a value refuses it.
-/

namespace MarcHarvest.Json

open Text

/-- The white space of JSON. -/
def isSpace (c : Char) : Bool := c == ' ' || c == '\t' || c == '\n' || c == '\r'

/-- The text from its first character that is no white space. -/
def skipSpace (l : List Char) : List Char := l.dropWhile isSpace

/-! ## Texts -/

/-- The value of a hexadecimal digit. -/
def hexDigit? (c : Char) : Option Nat :=
  if c.isDigit then some (digitValue c)
  else if 'a' ≤ c ∧ c ≤ 'f' then some (c.toNat - 'a'.toNat + 10)
  else if 'A' ≤ c ∧ c ≤ 'F' then some (c.toNat - 'A'.toNat + 10)
  else none

/-- The code unit that four hexadecimal digits write. -/
def codeUnit? (a b c d : Char) : Option Nat := do
  return ((← hexDigit? a) * 16 + (← hexDigit? b)) * 256 + (← hexDigit? c) * 16 + (← hexDigit? d)

/-- First halves of surrogate pairs. -/
def isHighSurrogate (u : Nat) : Bool := 0xd800 ≤ u && u < 0xdc00

/-- Second halves of surrogate pairs. -/
def isLowSurrogate (u : Nat) : Bool := 0xdc00 ≤ u && u < 0xe000

/-- The character of a surrogate pair. -/
def ofSurrogates (high low : Nat) : Char :=
  Char.ofNat (0x10000 + (high - 0xd800) * 0x400 + (low - 0xdc00))

/-- The character that a letter after a backslash stands for. -/
def escape? (c : Char) : Option Char :=
  match c with
  | '"' | '\\' | '/' => some c
  | 'b' => some '\x08'
  | 'f' => some '\x0c'
  | 'n' => some '\n'
  | 'r' => some '\r'
  | 't' => some '\t'
  | _ => none

/-- Reads a text after its opening quote: the code of each character, where an escape gives a code
unit, and the rest after the closing quote. -/
def readCodes : List Char → Option (List Nat × List Char)
  | [] => none
  | '"' :: rest => some ([], rest)
  | '\\' :: 'u' :: a :: b :: c :: d :: rest => do
    let u ← codeUnit? a b c d
    let (codes, rest) ← readCodes rest
    return (u :: codes, rest)
  | '\\' :: c :: rest => do
    let e ← escape? c
    let (codes, rest) ← readCodes rest
    return (e.toNat :: codes, rest)
  | c :: rest =>
    if c.toNat < 0x20 then none
    else (readCodes rest).map fun (codes, rest) => (c.toNat :: codes, rest)

/-- The characters that codes stand for, where surrogates come in pairs only. -/
def decodeCodes : List Nat → Option (List Char)
  | [] => some []
  | u :: v :: rest =>
    if isHighSurrogate u && isLowSurrogate v then
      (decodeCodes rest).map (ofSurrogates u v :: ·)
    else if isHighSurrogate u || isLowSurrogate u then none
    else (decodeCodes (v :: rest)).map (Char.ofNat u :: ·)
  | [u] => if isHighSurrogate u || isLowSurrogate u then none else some [Char.ofNat u]

/-- Reads a text after its opening quote: the text itself, unless it is broken, and the rest. -/
def readText (l : List Char) : Option (Option String × List Char) :=
  (readCodes l).map fun (codes, rest) => ((decodeCodes codes).map String.ofList, rest)

/-! ## Numbers -/

/-- Reads digits, at least one. -/
def readDigits (l : List Char) : Option (List Char × List Char) :=
  let (digits, rest) := leadingDigits l
  if digits.isEmpty then none else some (digits, rest)

/-- Reads the digits before the point: a zero, or digits of which the first is none. -/
def readWhole : List Char → Option (List Char × List Char)
  | '0' :: rest => some (['0'], rest)
  | l => readDigits l

/-- Reads the point and the digits after it, if there is a point. -/
def readFraction : List Char → Option (List Char × List Char)
  | '.' :: rest => readDigits rest
  | l => some ([], l)

/-- Reads a number with or without a sign before it. -/
def readSigned (l : List Char) : Option (Int × List Char) :=
  match l with
  | '-' :: rest => (readDigits rest).map fun (ds, rest) => (-(decimalValue ds : Int), rest)
  | '+' :: rest => (readDigits rest).map fun (ds, rest) => ((decimalValue ds : Int), rest)
  | l => (readDigits l).map fun (ds, rest) => ((decimalValue ds : Int), rest)

/-- Reads the exponent, if there is one. -/
def readExponent : List Char → Option (Int × List Char)
  | 'e' :: rest => readSigned rest
  | 'E' :: rest => readSigned rest
  | l => some (0, l)

/-- Reads a number without a sign. -/
def readUnsigned (negative : Bool) (l : List Char) : Option (Json × List Char) := do
  let (whole, rest) ← readWhole l
  let (fraction, rest) ← readFraction rest
  let (exponent, rest) ← readExponent rest
  return (.number ⟨negative, decimalValue (whole ++ fraction), exponent - fraction.length⟩, rest)

/-! ## Values -/

def readWord (word : String) (value : Json) (l : List Char) : Option (Json × List Char) :=
  if word.toList.isPrefixOf l then some (value, l.drop word.toList.length) else none

/-- Reads a key with its colon, after the opening quote. -/
def readKey (l : List Char) : Option (Option String × List Char) := do
  let (key, rest) ← readText l
  match skipSpace rest with
  | ':' :: rest => return (key, rest)
  | _ => none

/-- An object from its members, unless a key is broken. -/
def ofMembers (members : List (Option String × Json)) : Json :=
  match members.mapM fun m => m.1.map fun key => (key, m.2) with
  | some members => .object members
  | none => .broken

mutual

/-- Reads a value. The text gets shorter in every step, so its length is fuel enough. -/
def readValue : Nat → List Char → Option (Json × List Char)
  | 0, _ => none
  | fuel + 1, l => match skipSpace l with
    | '"' :: rest => do
      let (t, rest) ← readText rest
      return ((t.map Json.text).getD .broken, rest)
    | '[' :: rest => match skipSpace rest with
      | ']' :: rest => some (.array [], rest)
      | rest => (readItems fuel rest).map fun (items, rest) => (.array items, rest)
    | '\x7b' :: rest => match skipSpace rest with
      | '\x7d' :: rest => some (.object [], rest)
      | rest => (readMembers fuel rest).map fun (members, rest) => (ofMembers members, rest)
    | 't' :: rest => readWord "rue" (.bool true) rest
    | 'f' :: rest => readWord "alse" (.bool false) rest
    | 'n' :: rest => readWord "ull" .null rest
    | '-' :: rest => readUnsigned true rest
    | rest => readUnsigned false rest

/-- Reads the items of an array, at least one, up to its closing bracket. -/
def readItems : Nat → List Char → Option (List Json × List Char)
  | 0, _ => none
  | fuel + 1, l => do
    let (item, rest) ← readValue fuel l
    match skipSpace rest with
    | ']' :: rest => return ([item], rest)
    | ',' :: rest => do
      let (items, rest) ← readItems fuel rest
      return (item :: items, rest)
    | _ => none

/-- Reads the members of an object, at least one, up to its closing brace. -/
def readMembers : Nat → List Char → Option (List (Option String × Json) × List Char)
  | 0, _ => none
  | fuel + 1, l => match skipSpace l with
    | '"' :: rest => do
      let (key, rest) ← readKey rest
      let (value, rest) ← readValue fuel rest
      match skipSpace rest with
      | '\x7d' :: rest => return ([(key, value)], rest)
      | ',' :: rest => do
        let (members, rest) ← readMembers fuel rest
        return ((key, value) :: members, rest)
      | _ => none
    | _ => none

end

/-- The value that a text writes, with nothing but white space around it. -/
def parse? (text : String) : Option Json := do
  let l := text.toList
  let (value, rest) ← readValue (2 * l.length + 2) l
  if (skipSpace rest).isEmpty then return value else none

end MarcHarvest.Json
