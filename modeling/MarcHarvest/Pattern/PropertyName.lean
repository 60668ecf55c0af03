import MarcHarvest.Pattern.CharSet

/-!
# Names of properties

How patterns name properties: case, spaces, hyphens, low lines and an initial `is` do not count.
-/

namespace MarcHarvest.CharProperty

open Unicode GeneralCategory

/-- What counts of a name. -/
def normalizeName (name : List Char) : List Char :=
  let skipsIs := match name with
    | i :: s :: _ => i.toLower == 'i' && s.toLower == 's'
    | _ => false
  let body := if skipsIs then name.drop 2 else name
  let plain := (body.filter fun c => isAscii c && !(c == ' ' || c == '_' || c == '-')).map
    Char.toLower
  if skipsIs && plain == ['c'] then ['i', 's', 'c'] else plain

/-- General categories by their names. -/
def categoryNamed? (name : String) : Option CharProperty :=
  match name with
  | "any" => some any
  | "assigned" => some assigned
  | "ascii" => some ascii
  | "l" | "letter" => some (category letters)
  | "lc" | "casedletter" => some (category [uppercaseLetter, lowercaseLetter, titlecaseLetter])
  | "lu" | "uppercaseletter" => some (category [uppercaseLetter])
  | "ll" | "lowercaseletter" => some (category [lowercaseLetter])
  | "lt" | "titlecaseletter" => some (category [titlecaseLetter])
  | "lm" | "modifierletter" => some (category [modifierLetter])
  | "lo" | "otherletter" => some (category [otherLetter])
  | "m" | "mark" | "combiningmark" => some (category marks)
  | "mn" | "nonspacingmark" => some (category [nonspacingMark])
  | "mc" | "spacingmark" => some (category [spacingMark])
  | "me" | "enclosingmark" => some (category [enclosingMark])
  | "n" | "number" => some (category numbers)
  | "nd" | "decimalnumber" | "digit" => some (category [decimalNumber])
  | "nl" | "letternumber" => some (category [letterNumber])
  | "no" | "othernumber" => some (category [otherNumber])
  | "p" | "punctuation" | "punct" => some (category punctuation)
  | "pc" | "connectorpunctuation" => some (category [connectorPunctuation])
  | "pd" | "dashpunctuation" => some (category [dashPunctuation])
  | "ps" | "openpunctuation" => some (category [openPunctuation])
  | "pe" | "closepunctuation" => some (category [closePunctuation])
  | "pi" | "initialpunctuation" => some (category [initialPunctuation])
  | "pf" | "finalpunctuation" => some (category [finalPunctuation])
  | "po" | "otherpunctuation" => some (category [otherPunctuation])
  | "s" | "symbol" => some (category symbols)
  | "sm" | "mathsymbol" => some (category [mathSymbol])
  | "sc" | "currencysymbol" => some (category [currencySymbol])
  | "sk" | "modifiersymbol" => some (category [modifierSymbol])
  | "so" | "othersymbol" => some (category [otherSymbol])
  | "z" | "separator" => some (category separators)
  | "zs" | "spaceseparator" => some (category [spaceSeparator])
  | "zl" | "lineseparator" => some (category [lineSeparator])
  | "zp" | "paragraphseparator" => some (category [paragraphSeparator])
  | "c" | "other" => some (category others)
  | "cc" | "control" | "cntrl" => some (category [control])
  | "cf" | "format" => some (category [format])
  | "cs" | "surrogate" => some (category [])
  | "co" | "privateuse" => some (category [privateUse])
  | "cn" | "unassigned" => some (category [unassigned])
  | _ => none

/-- Scripts by their names. -/
def scriptNamed? (name : String) : Option CharProperty := (Script.named? name).map script

/-- Properties that are true or false of a character, by their names. -/
def binaryNamed? (name : String) : Option CharProperty :=
  match name with
  | "alphabetic" | "alpha" => some alphabetic
  | "lowercase" | "lower" => some lowercase
  | "uppercase" | "upper" => some uppercase
  | "cased" => some cased
  | "caseignorable" | "ci" => some caseIgnorable
  | "graphemeextend" | "grext" => some graphemeExtend
  | "joincontrol" | "joinc" => some joinControl
  | "whitespace" | "wspace" | "space" => some whiteSpace
  | _ => none

/-- The property that a name alone stands for. -/
def named? (name : List Char) : Option CharProperty :=
  let name := String.ofList (normalizeName name)
  binaryNamed? name <|> categoryNamed? name <|> scriptNamed? name

/-- The property that a name and a value stand for. -/
def valued? (name value : List Char) : Option CharProperty :=
  let value := String.ofList (normalizeName value)
  match String.ofList (normalizeName name) with
  | "generalcategory" | "gc" => categoryNamed? value
  | "script" | "sc" => scriptNamed? value
  | "scriptextensions" | "scx" => scriptNamed? value
  | _ => none

end MarcHarvest.CharProperty
