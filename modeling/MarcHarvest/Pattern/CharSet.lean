import MarcHarvest.Unicode.Casing
import MarcHarvest.Unicode.Script

/-!
# Sets of characters

What one place of a pattern accepts: ranges, properties, and what set operations and case folding
make of them.
-/

namespace MarcHarvest

open Unicode

/-- A property that patterns can ask for. -/
inductive CharProperty where
  | category (gs : List GeneralCategory)
  | script (codes : CodeSet)
  | alphabetic | lowercase | uppercase | cased | caseIgnorable
  | graphemeExtend | joinControl | whiteSpace | decimalDigit | word
  | ascii | any | assigned

/-- Whether a character has a property, by version 16.0. -/
def CharProperty.has : CharProperty → Char → Bool
  | category gs, c => isOneOf .v16 gs c
  | script codes, c => codes.hasIn .v16 c
  | alphabetic, c => isAlphabetic .v16 c
  | lowercase, c => isLowercase .v16 c
  | uppercase, c => isUppercase .v16 c
  | cased, c => isCased .v16 c
  | caseIgnorable, c => isCaseIgnorable .v16 c
  | graphemeExtend, c => extendsGrapheme .v16 c
  | joinControl, c => Unicode.joinControl.has c
  | whiteSpace, c => isWhiteSpace c
  | decimalDigit, c => isDecimalDigit .v16 c
  | word, c => isWord .v16 c
  | ascii, c => isAscii c
  | any, _ => true
  | assigned, c => !GeneralCategory.unassigned.has .v16 c

inductive CharSet where
  | none
  | range (first last : Char)
  | property (p : CharProperty)
  | union (a b : CharSet)
  | inter (a b : CharSet)
  | diff (a b : CharSet)
  | compl (a : CharSet)
  /-- All characters that differ from one of the set in case only. -/
  | fold (a : CharSet)
  /-- As `fold`, for ASCII letters alone. -/
  | foldAscii (a : CharSet)

namespace CharSet

def contains : CharSet → Char → Bool
  | none, _ => false
  | range first last, c => first.toNat ≤ c.toNat && c.toNat ≤ last.toNat
  | property p, c => p.has c
  | union a b, c => a.contains c || b.contains c
  | inter a b, c => a.contains c && b.contains c
  | diff a b, c => a.contains c && !b.contains c
  | compl a, c => !a.contains c
  | fold a, c => (foldClass c).any fun d => a.contains d
  | foldAscii a, c => a.contains c || a.contains c.toLower || a.contains c.toUpper

def single (c : Char) : CharSet := range c c

/-- The characters of a list of ranges. -/
def ofRanges (l : List (Char × Char)) : CharSet :=
  l.foldr (fun r s => union (range r.1 r.2) s) none

/-- The characters in exactly one of two sets. -/
def symmDiff (a b : CharSet) : CharSet := union (diff a b) (diff b a)

/-- The complement of `a`, if asked for. -/
def negate (negated : Bool) (a : CharSet) : CharSet := if negated then compl a else a

def asciiSpace : CharSet := ofRanges [('\t', '\r'), (' ', ' ')]

def asciiDigit : CharSet := range '0' '9'

def asciiLetter : CharSet := ofRanges [('A', 'Z'), ('a', 'z')]

/-- ASCII letters and digits and the low line. -/
def asciiWord : CharSet := union asciiLetter (ofRanges [('0', '9'), ('_', '_')])

/-- The ASCII set with a name, as in `[:alpha:]`. -/
def asciiNamed? (name : String) : Option CharSet :=
  match name with
  | "alnum" => some (union asciiLetter asciiDigit)
  | "alpha" => some asciiLetter
  | "ascii" => some (range '\x00' '\x7f')
  | "blank" => some (ofRanges [('\t', '\t'), (' ', ' ')])
  | "cntrl" => some (ofRanges [('\x00', '\x1f'), ('\x7f', '\x7f')])
  | "digit" => some asciiDigit
  | "graph" => some (range '!' '~')
  | "lower" => some (range 'a' 'z')
  | "print" => some (range ' ' '~')
  | "punct" => some (ofRanges [('!', '/'), (':', '@'), ('[', '\x60'), ('\x7b', '~')])
  | "space" => some asciiSpace
  | "upper" => some (range 'A' 'Z')
  | "word" => some asciiWord
  | "xdigit" => some (ofRanges [('0', '9'), ('A', 'F'), ('a', 'f')])
  | _ => Option.none

end CharSet

end MarcHarvest
