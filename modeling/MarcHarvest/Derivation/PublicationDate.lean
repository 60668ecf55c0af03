import MarcHarvest.Index.Basic
import MarcHarvest.Text.Decimal
import MarcHarvest.Text.Trim

/-!
# Publication dates

The control field 008 codes a type of date and two dates of four characters. An unknown digit is
written `u` or filled with a bar: it counts as 0 in a start year and as 9 in an end year. If the
codes give no date, the first text in the publication statements that holds a year does.

A date is one year (`1986`) or a span (`1950/2029`). What is still being published ends in 9999.
-/

namespace MarcHarvest.PublicationDate

open Text Unicode

/-- The control field with coded dates. -/
def codedTag : String := "008"

/-- The fields with publication statements, the preferred one first. -/
def statementTags : List String := ["264", "260"]

/-- The end year of what is still being published. -/
def openEnd : Int := 9999

/-- The longest span that is taken for a questionable date. -/
def questionableSpan : Int := 200

/-! ## Years -/

/-- The number that digits write; 0 if there are none or anything else is among them. -/
def naturalYear (l : List Char) : Nat :=
  if !l.isEmpty && l.all Char.isDigit then decimalValue l else 0

/-- The year that a text writes, with blanks around it and a sign before it allowed; 0 if it
writes none. -/
def readYear (l : List Char) : Int :=
  match trimBlanks l with
  | '-' :: rest => -(naturalYear rest : Int)
  | '+' :: rest => naturalYear rest
  | rest => naturalYear rest

/-- Puts `digit` for every `unknown`. -/
def fillIn (unknown digit : Char) (l : List Char) : List Char :=
  l.map fun c => if c = unknown then digit else c

/-- The earliest year that a text with unknown digits can mean. -/
def earliestYear (unknown : Char) (l : List Char) : Int := readYear (fillIn unknown '0' l)

/-- The latest year that a text with unknown digits can mean. -/
def latestYear (unknown : Char) (l : List Char) : Int := readYear (fillIn unknown '9' l)

/-! ## From years to a date -/

def single (year : Int) : String := toString year

def span (start stop : Int) : String := toString start ++ "/" ++ toString stop

/-- The date for a start and an end year, where 0 is no year. -/
def resolve? (start stop : Int) (type : Option Char) : Option String :=
  let type := type.map Char.toLower
  if start = 0 then none
  else if type = some 'q' then
    if stop = 0 ∨ stop = start then some (single start)
    else if start < stop ∧ stop - start ≤ questionableSpan then some (span start stop)
    -- A questionable date does not fall back to its start.
    else none
  else if start < stop then some (span start stop)
  else if stop = 0 ∧ type = some 'c' then some (span start openEnd)
  else some (single start)

/-! ## Coded dates -/

/-- Types whose two dates are the ends of a span. -/
def isSpanType (type : Char) : Bool := ['q', 'c', 'd', 'u', 'm', 'k', 'i'].contains type

/-- Types whose first date alone describes the publication. -/
def isSingleType (type : Char) : Bool := ['p', 'r', 's', 'e', 't'].contains type

/-- The four characters of a coded date with bars as unknown digits; nothing if a blank is marked
among them or all are bars. -/
def slot? (l : List Char) : Option (List Char) :=
  if l.contains '#' || l.all (· == '|') then none else some (fillIn '|' 'u' l)

def firstSlot? (payload : List Char) : Option (List Char) := slot? ((payload.drop 7).take 4)

/-- The second coded date, which counts only if the payload goes on after it. -/
def secondSlot? (payload : List Char) : Option (List Char) :=
  if 15 < payload.length then slot? ((payload.drop 11).take 4) else none

/-- The type of date in a payload. -/
def type? (payload : List Char) : Option Char := payload[6]?

def coded? (payload : List Char) (type : Char) : Option String :=
  let first := firstSlot? payload
  let stop :=
    if isSpanType type then secondSlot? payload
    else first
  if payload.length < 11 then none
  else if isSpanType type || isSingleType type then
    resolve? ((first.map (earliestYear 'u')).getD 0) ((stop.map (latestYear 'u')).getD 0) (some type)
  else none

/-! ## Dates in texts -/

/-- Marks that stand for the last digit of a year. -/
def isUnknownMark (c : Char) : Bool := c == '-' || c == '?' || c == 'u' || c == '|'

/-- Writes `x` for each unknown mark after three digits that begin a word. `inWord` tells whether
the character before the text belongs to a word. -/
def markUnknown (inWord : Bool) : List Char → List Char
  | a :: b :: c :: m :: rest =>
    if !inWord && [a, b, c].all Char.isDigit && isUnknownMark m then
      a :: b :: c :: 'x' :: markUnknown (isWord .v16 m) rest
    else a :: markUnknown (isWord .v16 a) (b :: c :: m :: rest)
  | l => l

/-- Digits, and the letter for an unknown digit. -/
def isYearDigit (c : Char) : Bool := c.isDigit || c == 'x'

/-- Whether `l` begins with exactly `n` digits of a year that end a word. -/
def beginsYear (n : Nat) (l : List Char) : Bool :=
  (l.take n).length == n && (l.take n).all isYearDigit && !(l.drop n).head?.any (isWord .v16)

/-- The year at the start of `l`: four digits, or else three. -/
def yearAt? (l : List Char) : Option (List Char) :=
  if beginsYear 4 l then some (l.take 4)
  else if beginsYear 3 l then some (l.take 3)
  else none

/-- The years in a text that begin and end a word, in order. -/
def yearRuns (inWord : Bool) : List Char → List (List Char)
  | [] => []
  | c :: rest =>
    (if inWord then [] else (yearAt? (c :: rest)).toList) ++ yearRuns (isWord .v16 c) rest

/-- The date in a text: its first year, up to the same year or to the last one, as the type of
date asks. -/
def ofText? (text : String) (type : Option Char) : Option String :=
  match yearRuns false (markUnknown false text.toList) with
  | [] => none
  | first :: more =>
    let stop :=
      if (type.map Char.toLower).any isSingleType then some first else more.getLast?
    resolve? (earliestYear 'x' first) ((stop.map (latestYear 'x')).getD 0) type

/-- The texts of the publication statements with a tag. -/
def statements (index : Index) (tag : String) : List String :=
  ((index.directFields tag).filterMap fun e => e.field.value? 'c').filter fun t => !t.isEmpty

def described? (index : Index) (type : Option Char) : Option String :=
  statementTags.findSome? fun tag =>
    (statements index tag).findSome? fun text => ofText? text type

/-- The date of publication of a record. -/
def publicationDate? (index : Index) : Option String :=
  let payload := ((index.controlField? codedTag).map fun c => c.value.toList).getD []
  let type := type? payload
  type.bind (coded? payload) <|> described? index type

end MarcHarvest.PublicationDate
