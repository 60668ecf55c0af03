import MarcHarvest.Unicode.Category.Letter
import MarcHarvest.Unicode.Category.Mark
import MarcHarvest.Unicode.Category.Symbol
import MarcHarvest.Unicode.Version

/-!
# General categories

The general categories as a closed list, with the set of characters of each. Every code point that
no table names is unassigned.
-/

namespace MarcHarvest.Unicode

/-- The general categories that a character can have, in the order of the standard. -/
inductive GeneralCategory where
  | uppercaseLetter | lowercaseLetter | titlecaseLetter | modifierLetter | otherLetter
  | nonspacingMark | spacingMark | enclosingMark
  | decimalNumber | letterNumber | otherNumber
  | connectorPunctuation | dashPunctuation | openPunctuation | closePunctuation
  | initialPunctuation | finalPunctuation | otherPunctuation
  | mathSymbol | currencySymbol | modifierSymbol | otherSymbol
  | spaceSeparator | lineSeparator | paragraphSeparator
  | control | format | privateUse
  | unassigned
  deriving Repr, DecidableEq

namespace GeneralCategory

/-- All assigned categories. -/
def assigned : List GeneralCategory :=
  [uppercaseLetter, lowercaseLetter, titlecaseLetter, modifierLetter, otherLetter,
    nonspacingMark, spacingMark, enclosingMark, decimalNumber, letterNumber, otherNumber,
    connectorPunctuation, dashPunctuation, openPunctuation, closePunctuation,
    initialPunctuation, finalPunctuation, otherPunctuation,
    mathSymbol, currencySymbol, modifierSymbol, otherSymbol,
    spaceSeparator, lineSeparator, paragraphSeparator, control, format, privateUse]

/-- The table of a category; `unassigned` has none, since it is what the others leave. -/
def table : GeneralCategory → CodeSet
  | uppercaseLetter => Category.uppercaseLetter
  | lowercaseLetter => Category.lowercaseLetter
  | titlecaseLetter => Category.titlecaseLetter
  | modifierLetter => Category.modifierLetter
  | otherLetter => Category.otherLetter
  | nonspacingMark => Category.nonspacingMark
  | spacingMark => Category.spacingMark
  | enclosingMark => Category.enclosingMark
  | decimalNumber => Category.decimalNumber
  | letterNumber => Category.letterNumber
  | otherNumber => Category.otherNumber
  | connectorPunctuation => Category.connectorPunctuation
  | dashPunctuation => Category.dashPunctuation
  | openPunctuation => Category.openPunctuation
  | closePunctuation => Category.closePunctuation
  | initialPunctuation => Category.initialPunctuation
  | finalPunctuation => Category.finalPunctuation
  | otherPunctuation => Category.otherPunctuation
  | mathSymbol => Category.mathSymbol
  | currencySymbol => Category.currencySymbol
  | modifierSymbol => Category.modifierSymbol
  | otherSymbol => Category.otherSymbol
  | spaceSeparator => Category.spaceSeparator
  | lineSeparator => Category.lineSeparator
  | paragraphSeparator => Category.paragraphSeparator
  | control => Category.control
  | format => Category.format
  | privateUse => Category.privateUse
  | unassigned => ⟨[], []⟩

/-- The letter that was in lower case up to version 16.0 and is without case since. -/
def recategorized : Char := '\u0295'

/-- Whether `c` is of category `g` in a version. -/
def has (g : GeneralCategory) (v : Version) (c : Char) : Bool :=
  if v = .v16 ∧ c = recategorized then g == lowercaseLetter
  else match g with
    | unassigned => !v.knows c || !assigned.any fun h => h.table.has c
    | _ => g.table.hasIn v c

def letters : List GeneralCategory :=
  [uppercaseLetter, lowercaseLetter, titlecaseLetter, modifierLetter, otherLetter]

def marks : List GeneralCategory := [nonspacingMark, spacingMark, enclosingMark]

def numbers : List GeneralCategory := [decimalNumber, letterNumber, otherNumber]

def punctuation : List GeneralCategory :=
  [connectorPunctuation, dashPunctuation, openPunctuation, closePunctuation,
    initialPunctuation, finalPunctuation, otherPunctuation]

def symbols : List GeneralCategory := [mathSymbol, currencySymbol, modifierSymbol, otherSymbol]

def separators : List GeneralCategory := [spaceSeparator, lineSeparator, paragraphSeparator]

/-- Controls, format characters, private use and unassigned code points. -/
def others : List GeneralCategory := [control, format, privateUse, unassigned]

end GeneralCategory

/-- Whether `c` is of one of the categories `gs` in a version. -/
def isOneOf (v : Version) (gs : List GeneralCategory) (c : Char) : Bool := gs.any fun g => g.has v c

end MarcHarvest.Unicode
