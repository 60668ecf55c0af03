import MarcHarvest.Pattern.Reader.Class

/-!
# Reading patterns

`Pattern.read?` reads the text of a pattern. Options set inside a group hold to the end of that
group, through all its alternatives; those written before a colon hold inside their group only.
-/

namespace MarcHarvest.Pattern

open Unicode

/-- How far a pattern is read: the rest of the text, the number of groups opened so far and the
names among them. -/
structure Progress where
  rest : List Char
  groups : Nat
  names : List (List Char)

/-- The pattern for one character. -/
def ofLiteral (o : Options) (c : Char) : Pattern := one (o.fold (.single c))

/-- The pattern for a dot. Outside Unicode it would accept bytes that are no characters. -/
def ofDot? (o : Options) : Option Pattern :=
  if !o.unicode then none
  else if o.dotAll then some (one (.compl .none))
  else if o.carriageReturn then some (one (.compl (.ofRanges [('\n', '\n'), ('\r', '\r')])))
  else some (one (.compl (.single '\n')))

/-- The meaning of a caret. -/
def ofCaret (o : Options) : Assertion :=
  if !o.multiLine then .textStart else if o.carriageReturn then .lineStartReturn else .lineStart

/-- The meaning of a dollar sign. -/
def ofDollar (o : Options) : Assertion :=
  if !o.multiLine then .textEnd else if o.carriageReturn then .lineEndReturn else .lineEnd

/-- The pattern of an escape. -/
def ofEscape (o : Options) : Escape → Pattern
  | .literal c => ofLiteral o c
  | .class s => one s
  | .assertion a => assertion a

/-- The pattern of a class. Its brackets nest as parentheses do. -/
def ofClass : (nesting : Nat) → CharSet → Pattern
  | 0, s => one s
  | n + 1, s => group none (ofClass n s)

/-! ## Repetitions -/

/-- Reads digits up to the first character that is none and counts. -/
def readDigits (verbose inComment : Bool) : List Char → List Char × List Char
  | [] => ([], [])
  | c :: rest =>
    if inComment then readDigits verbose (c != '\n') rest
    else if c.isDigit then
      let (digits, rest) := readDigits verbose false rest
      (c :: digits, rest)
    else if verbose && c == '#' then readDigits verbose true rest
    else if verbose && isWhiteSpace c then readDigits verbose false rest
    else ([], c :: rest)

/-- Counts are numbers of 32 bits: they are below this bound. -/
def countBound : Nat := 0x100000000

/-- Reads a count with white space around it. -/
def readCount (o : Options) (l : List Char) : Option (Nat × List Char) :=
  let (digits, rest) := readDigits o.verbose false (l.dropWhile isWhiteSpace)
  let n := Text.decimalValue digits
  if digits.isEmpty || countBound ≤ n then none else some (n, rest.dropWhile isWhiteSpace)

/-- Reads the bounds of a repetition after the opening brace. -/
def readBounds (o : Options) (l : List Char) : Option ((Nat × Option Nat) × List Char) := do
  let (least, rest) ← readCount o (o.skip l)
  match rest with
  | '\x7d' :: rest => return ((least, some least), rest)
  | ',' :: rest => match o.skip rest with
    | '\x7d' :: rest => return ((least, none), rest)
    | rest => do
      let (most, rest) ← readCount o rest
      match rest with
      | '\x7d' :: rest => if least ≤ most then return ((least, some most), rest) else none
      | _ => none
  | _ => none

/-- Reads the question mark that makes a repetition lazy. -/
def readGreed (o : Options) (l : List Char) : Bool × List Char :=
  match l with
  | '?' :: rest => (o.swapGreed, rest)
  | rest => (!o.swapGreed, rest)

/-- Puts a repetition around the last item. There must be one, and it must not be a mere change of
options, which counts as an item that is nothing. -/
def repeatLast (least : Nat) (most : Option Nat) (greedy : Bool) :
    List (Option Pattern) → Option (List (Option Pattern))
  | some p :: items => some (some (times p least most greedy) :: items)
  | _ => none

/-- Reads a repetition whose first character is `c`. -/
def readRepetition (o : Options) (c : Char) (l : List Char) (items : List (Option Pattern)) :
    Option (List (Option Pattern) × List Char) := do
  let ((least, most), rest) ← match c with
    | '?' => some ((0, some 1), l)
    | '*' => some ((0, none), l)
    | '+' => some ((1, none), l)
    | _ => (readBounds o l).map fun (bounds, rest) => (bounds, o.skip rest)
  let (greedy, rest) := readGreed o rest
  return (← repeatLast least most greedy items, rest)

/-! ## Groups -/

/-- What the opening of a parenthesis turns out to be. -/
inductive Opening where
  /-- A numbered group. -/
  | numbered (name : Option (List Char)) (rest : List Char)
  /-- A group without a number, with its options. -/
  | plain (o : Options) (rest : List Char)
  /-- A change of options for what follows. -/
  | options (o : Options) (rest : List Char)

/-- Whether a character can be in the name of a group; the first one less than the others. -/
def isNameChar (first : Bool) (c : Char) : Bool :=
  c == '_' || isAlphabetic .v17 c ||
    (!first && (c == '.' || c == '[' || c == ']' || isOneOf .v17 GeneralCategory.numbers c))

/-- Reads the name of a group up to its closing angle. -/
def readName (l : List Char) : Option (List Char × List Char) := do
  let (name, rest) ← splitAtFirst? ['>'] l
  if name.head?.any (isNameChar true) && name.tail.all (isNameChar false) then
    return (name, rest)
  else none

/-- Reads the opening of a parenthesis after the parenthesis. There are no conditions on what
comes before or after. -/
def readOpening (o : Options) (l : List Char) : Option Opening :=
  match o.skip l with
  | '?' :: 'P' :: '<' :: rest =>
    (readName rest).map fun (name, rest) => .numbered (some name) rest
  | '?' :: '<' :: '=' :: _ => none
  | '?' :: '<' :: '!' :: _ => none
  | '?' :: '<' :: rest => (readName rest).map fun (name, rest) => .numbered (some name) rest
  | '?' :: ')' :: _ => none
  | '?' :: rest => do
    let (o, rest) ← readOptions o [] rest
    match rest with
    | ')' :: rest => return .options o rest
    | _ :: rest => return .plain o rest
    | [] => none
  | rest => some (.numbered none rest)

/-- Counts a new group. A name must not come twice. -/
def Progress.open? (s : Progress) (name : Option (List Char)) : Option Progress :=
  match name with
  | none => some { s with groups := s.groups + 1 }
  | some n =>
    if s.names.contains n then none
    else some { s with groups := s.groups + 1, names := n :: s.names }

/-! ## Whole patterns -/

/-- One alternative from its items, the last one first. -/
def ofItems (items : List (Option Pattern)) : Pattern :=
  seqAll (items.reverse.map fun p => p.getD empty)

/-- Reads alternatives up to a closing parenthesis or the end. `done` holds the finished
alternatives and `items` those of the current one, the last first. The text gets shorter in every
step, so its length is fuel enough. -/
def readAlternatives : Nat → Options → (done : List Pattern) → (items : List (Option Pattern)) →
    Progress → Option (Pattern × Progress)
  | 0, _, _, _, _ => none
  | fuel + 1, o, done, items, s =>
    let continueWith := fun p rest =>
      readAlternatives fuel o done (some p :: items) { s with rest }
    match o.skip s.rest with
    | [] => some (altAll (ofItems items :: done).reverse, { s with rest := [] })
    | c :: rest => match c with
      | ')' => some (altAll (ofItems items :: done).reverse, { s with rest := c :: rest })
      | '|' => readAlternatives fuel o (ofItems items :: done) [] { s with rest }
      | '(' => do
        match ← readOpening o rest with
        | .options o rest => readAlternatives fuel o done (none :: items) { s with rest }
        | .plain inner rest =>
          let (p, s) ← readAlternatives fuel inner [] [] { s with rest }
          match s.rest with
          | ')' :: rest =>
            readAlternatives fuel o done (some (group none p) :: items) { s with rest }
          | _ => none
        | .numbered name rest =>
          let s ← s.open? name
          let number := s.groups
          let (p, s) ← readAlternatives fuel o [] [] { s with rest }
          match s.rest with
          | ')' :: rest =>
            readAlternatives fuel o done (some (group (some number) p) :: items) { s with rest }
          | _ => none
      | '[' => do
        let ((set, nesting), rest) ← readClass o rest
        continueWith (ofClass nesting set) rest
      | '?' | '*' | '+' | '\x7b' => do
        let (items, rest) ← readRepetition o c rest items
        readAlternatives fuel o done items { s with rest }
      | '\\' => do
        let (e, rest) ← readEscape o rest
        continueWith (ofEscape o e) rest
      | '.' => do continueWith (← ofDot? o) rest
      | '^' => continueWith (assertion (ofCaret o)) rest
      | '$' => continueWith (assertion (ofDollar o)) rest
      | c => continueWith (ofLiteral o c) rest

/-- The pattern that a text writes. -/
def read? (text : String) : Option Pattern := do
  let l := text.toList
  let (p, s) ← readAlternatives (l.length + 1) {} [] [] ⟨l, 0, []⟩
  if s.rest.isEmpty then return p else none

end MarcHarvest.Pattern
