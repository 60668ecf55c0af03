import MarcHarvest.Text.Trim
import MarcHarvest.Unicode.Property

/-!
# Trailing punctuation

Cataloguing rules end a piece of data with the punctuation that separates it from the next
(`Title /`, `Publisher,`, `Smith, John.`). `trimPunctuation` removes it by five rules, each of
which sees the result of the one before:

* `dropMark` cuts at the first place where only spaces, one mark and spaces follow;
* `dropPeriod` drops a final period after three or more characters of words, so that `Jr.` keeps
  its own;
* `unwrapBrackets` drops a first `[` and a last `]` around a text without brackets;
* blanks at both ends go;
* a period alone is no text.
-/

namespace MarcHarvest.Text

open Unicode

/-- Marks that separate pieces of data. -/
def isMark (c : Char) : Bool := c == ',' || c == '/' || c == ';' || c == ':'

/-- Whether `l` is spaces, one mark and spaces. -/
def isClosingMark (l : List Char) : Bool :=
  match l.dropWhile (· == ' ') with
  | [] => false
  | c :: rest => isMark c && rest.all (· == ' ')

/-- Cuts `l` where its first closing mark begins. -/
def dropMark : List Char → List Char
  | [] => []
  | c :: rest => if isClosingMark (c :: rest) then [] else c :: dropMark rest

/-- Characters that a period may follow without belonging to an abbreviation. -/
def isPeriodWord (c : Char) : Bool :=
  isAlphabetic .v16 c || c.isDigit || c == '_' || c == ','

/-- Whether `l` is spaces, at least three characters of words and a period. -/
def isClosingWord (l : List Char) : Bool :=
  let word := l.dropWhile (· == ' ')
  3 ≤ (word.takeWhile isPeriodWord).length && word.dropWhile isPeriodWord == ['.']

/-- Drops the last character of `l` if some end of `l` is a closing word. -/
def dropPeriod : List Char → List Char
  | [] => []
  | c :: rest => if isClosingWord (c :: rest) then (c :: rest).dropLast else c :: dropPeriod rest

def isBracket (c : Char) : Bool := c == '[' || c == ']'

/-- Drops an opening bracket at the start and a closing one at the end, if what lies between is
not empty and holds no other bracket. -/
def unwrapBrackets (l : List Char) : List Char :=
  let body := match l with
    | '[' :: rest => rest
    | _ => l
  let inner := if body.getLast? == some ']' then body.dropLast else body
  if inner.isEmpty || inner.any isBracket then l else inner

/-- The five rules on a list of characters. -/
def trimPunctuationList (l : List Char) : List Char :=
  let trimmed := trimBlanks (unwrapBrackets (dropPeriod (dropMark l)))
  if trimmed == ['.'] then [] else trimmed

/-- A value without the punctuation that cataloguing rules put at its end. -/
def trimPunctuation (s : String) : String := String.ofList (trimPunctuationList s.toList)

end MarcHarvest.Text
