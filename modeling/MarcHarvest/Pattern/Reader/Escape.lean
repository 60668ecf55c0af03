import MarcHarvest.Pattern.Basic
import MarcHarvest.Pattern.PropertyName
import MarcHarvest.Pattern.Reader.Option
import MarcHarvest.Text.Decimal

/-!
# Escapes

What a backslash begins: a character, a class of characters or an assertion. There are no
references to groups.
-/

namespace MarcHarvest.Pattern

open Unicode

/-- The meaning of an escape. -/
inductive Escape where
  | literal (c : Char)
  | class (s : CharSet)
  | assertion (a : Assertion)

/-! ## Characters by code -/

def hexValue? (c : Char) : Option Nat :=
  if c.isDigit then some (Text.digitValue c)
  else if 'a' ≤ c ∧ c ≤ 'f' then some (c.toNat - 'a'.toNat + 10)
  else if 'A' ≤ c ∧ c ≤ 'F' then some (c.toNat - 'A'.toNat + 10)
  else none

/-- The number that hexadecimal digits write. -/
def hexNumber? (digits : List Char) : Option Nat :=
  digits.foldlM (fun n c => (hexValue? c).map fun d => 16 * n + d) 0

/-- The character with a code, if a character has it. -/
def charOf? (n : Nat) : Option Char := if n.isValidChar then some (Char.ofNat n) else none

/-- Reads a fixed number of hexadecimal digits. -/
def readHexDigits (o : Options) : Nat → List Char → Option (List Char × List Char)
  | 0, l => some ([], l)
  | n + 1, l => match o.skip l with
    | [] => none
    | c :: rest => (readHexDigits o n rest).map fun (ds, rest) => (c :: ds, rest)

/-- The number of digits that follow the letter of a code. -/
def hexLength (letter : Char) : Nat :=
  if letter = 'x' then 2 else if letter = 'u' then 4 else 8

/-- Reads a character by its code: braces hold any number of digits. Two digits name a byte where
the pattern is not about Unicode, and only ASCII bytes are characters. -/
def readCode (o : Options) (letter : Char) (l : List Char) : Option (Char × List Char) :=
  match o.skip l with
  | '\x7b' :: rest => do
    let (digits, rest) ← readBraced o.verbose false rest
    if digits.isEmpty then none
    else return (← (← hexNumber? digits) |> charOf?, rest)
  | l => do
    let (digits, rest) ← readHexDigits o (hexLength letter) l
    let c ← (← hexNumber? digits) |> charOf?
    if letter = 'x' && !o.unicode && !isAscii c then none else return (c, rest)

/-! ## Classes -/

/-- Folds a set if case does not count. -/
def Options.fold (o : Options) (s : CharSet) : CharSet :=
  if o.ignoreCase then (if o.unicode then .fold s else .foldAscii s) else s

/-- The complement of a set, if asked for. Outside Unicode it would hold bytes that are no
characters. -/
def Options.negate? (o : Options) (negated : Bool) (s : CharSet) : Option CharSet :=
  if negated && !o.unicode then none else some (s.negate negated)

/-- Splits a text at the first place where `sep` begins. -/
def splitAtFirst? (sep : List Char) : List Char → Option (List Char × List Char)
  | [] => none
  | c :: rest =>
    if sep.isPrefixOf (c :: rest) then some ([], (c :: rest).drop sep.length)
    else (splitAtFirst? sep rest).map fun (s, rest) => (c :: s, rest)

/-- The property that the text in braces names, and whether it is negated. -/
def bracedProperty? (text : List Char) : Option (CharProperty × Bool) :=
  match splitAtFirst? ['!', '='] text with
  | some (name, value) => (CharProperty.valued? name value).map fun p => (p, true)
  | none => match splitAtFirst? [':'] text with
    | some (name, value) => (CharProperty.valued? name value).map fun p => (p, false)
    | none => match splitAtFirst? ['='] text with
      | some (name, value) => (CharProperty.valued? name value).map fun p => (p, false)
      | none => (CharProperty.named? text).map fun p => (p, false)

/-- Reads the name of a property: one letter, or text in braces. -/
def readPropertyName (o : Options) (l : List Char) : Option ((CharProperty × Bool) × List Char) :=
  match o.skip l with
  | [] => none
  | '\x7b' :: rest => do
    let (text, rest) ← readBraced o.verbose false rest
    return (← bracedProperty? text, rest)
  | c :: rest => if c = '\\' then none else (CharProperty.named? [c]).map fun p => ((p, false), rest)

/-- Reads a class of characters with a property, or without it if `negated`. -/
def readProperty (o : Options) (negated : Bool) (l : List Char) : Option (CharSet × List Char) := do
  let ((p, notEqual), rest) ← readPropertyName o l
  if o.unicode then return (.negate (negated != notEqual) (o.fold (.property p)), rest) else none

/-- The class that a letter names, `d`, `s` or `w`, or its complement for a capital. -/
def letterClass? (o : Options) (letter : Char) : Option CharSet :=
  let pick := fun p ascii => if o.unicode then CharSet.property p else ascii
  let set := match letter.toLower with
    | 'd' => pick .decimalDigit CharSet.asciiDigit
    | 's' => pick .whiteSpace CharSet.asciiSpace
    | _ => pick .word CharSet.asciiWord
  o.negate? letter.isUpper set

/-! ## Assertions -/

/-- Whether a character can be in the name of a word boundary. -/
def isBoundaryChar (c : Char) : Bool := c.isAlpha || c == '-'

/-- Reads the name in braces that can follow the letter of a word boundary. Braces that begin
otherwise are left to be read as a repetition. -/
def readBoundary (o : Options) (l : List Char) : Option (WordPlace × List Char) :=
  match l with
  | '\x7b' :: rest => match o.skip rest with
    | [] => none
    | c :: _ =>
      if !isBoundaryChar c then some (.boundary, l)
      else do
        let (name, rest) ← readBraced o.verbose false rest
        match String.ofList name with
        | "start" => some (.start, rest)
        | "end" => some (.stop, rest)
        | "start-half" => some (.startHalf, rest)
        | "end-half" => some (.stopHalf, rest)
        | _ => none
  | _ => some (.boundary, l)

/-! ## All escapes -/

/-- Whether a backslash before this character means the character itself. -/
def isEscapable (c : Char) : Bool := isAscii c && !c.isAlphanum && c != '<' && c != '>'

/-- Reads what follows a backslash. -/
def readEscape (o : Options) : List Char → Option (Escape × List Char)
  | [] => none
  | c :: rest =>
    let word := fun place => some (Escape.assertion (.word place (!o.unicode)), rest)
    match c with
    | 'x' | 'u' | 'U' => (readCode o c rest).map fun (c, rest) => (.literal c, rest)
    | 'p' => (readProperty o false rest).map fun (s, rest) => (.class s, rest)
    | 'P' => (readProperty o true rest).map fun (s, rest) => (.class s, rest)
    | 'd' | 's' | 'w' | 'D' | 'S' | 'W' => (letterClass? o c).map fun s => (.class s, rest)
    | 'a' => some (.literal '\x07', rest)
    | 'f' => some (.literal '\x0c', rest)
    | 't' => some (.literal '\t', rest)
    | 'n' => some (.literal '\n', rest)
    | 'r' => some (.literal '\r', rest)
    | 'v' => some (.literal '\x0b', rest)
    | 'A' => some (.assertion .textStart, rest)
    | 'z' => some (.assertion .textEnd, rest)
    | 'b' => (readBoundary o rest).map fun (place, rest) =>
        (.assertion (.word place (!o.unicode)), rest)
    | 'B' => word .inside
    | '<' => word .start
    | '>' => word .stop
    | c => if isEscapable c then some (.literal c, rest) else none

end MarcHarvest.Pattern
