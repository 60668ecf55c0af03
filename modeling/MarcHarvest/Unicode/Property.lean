import MarcHarvest.Unicode.GeneralCategory
import MarcHarvest.Unicode.Contributory

/-!
# Properties of characters

The derived properties that the text rules ask for, each defined from general categories and a
contributory set as the standard defines it. ASCII is decided without a table.
-/

namespace MarcHarvest.Unicode

open GeneralCategory

def isAscii (c : Char) : Bool := c.toNat < 0x80

/-- Alphabetic: letters, letter numbers and vowel signs. -/
def isAlphabetic (v : Version) (c : Char) : Bool :=
  if isAscii c then c.isAlpha
  else isOneOf v (letterNumber :: letters) c || otherAlphabetic.hasIn v c

/-- Characters of words: alphabetic characters, marks, decimal digits, connecting punctuation and
joiners. -/
def isWord (v : Version) (c : Char) : Bool :=
  if isAscii c then c.isAlphanum || c == '_'
  else isAlphabetic v c || isOneOf v (decimalNumber :: connectorPunctuation :: marks) c
    || joinControl.has c

def isDecimalDigit (v : Version) (c : Char) : Bool :=
  if isAscii c then c.isDigit else decimalNumber.has v c

/-- White space, which is the same in all versions. -/
def isWhiteSpace (c : Char) : Bool := whiteSpace.has c

/-- Lower case: letters of category Ll and their like. -/
def isLowercase (v : Version) (c : Char) : Bool :=
  if isAscii c then c.isLower else lowercaseLetter.has v c || otherLowercase.hasIn v c

/-- Upper case: letters of category Lu and their like. -/
def isUppercase (v : Version) (c : Char) : Bool :=
  if isAscii c then c.isUpper else uppercaseLetter.has v c || otherUppercase.hasIn v c

def isCased (v : Version) (c : Char) : Bool :=
  isLowercase v c || isUppercase v c || titlecaseLetter.has v c

/-- Characters that the rules for case in words skip. -/
def isCaseIgnorable (v : Version) (c : Char) : Bool :=
  isOneOf v [nonspacingMark, enclosingMark, format, modifierLetter, modifierSymbol] c
    || otherCaseIgnorable.hasIn v c

/-- Characters that extend the one before them. -/
def extendsGrapheme (v : Version) (c : Char) : Bool :=
  if isAscii c then false
  else isOneOf v [nonspacingMark, enclosingMark] c || otherGraphemeExtend.hasIn v c

/-- Characters that show something when printed, and the space. -/
def isPrintable (v : Version) (c : Char) : Bool :=
  if isAscii c then 0x20 ≤ c.toNat && c.toNat < 0x7f
  else !isOneOf v (others ++ separators) c && !otherInvisible.has c

/-- Characters that show something by themselves. The sound marks of halfwidth Katakana, which are
letters, do so although they extend the character before them. -/
def standsAlone (v : Version) (c : Char) : Bool :=
  isPrintable v c && (!extendsGrapheme v c || modifierLetter.has v c)

end MarcHarvest.Unicode
