import MarcHarvest.Unicode.Property

/-!
# Options of a pattern

The options that letters in a pattern switch on and off, and what the verbose option makes a
reader skip.
-/

namespace MarcHarvest.Pattern

/-- The options in force at a place of a pattern. -/
structure Options where
  /-- `i`: case does not count. -/
  ignoreCase : Bool := false
  /-- `m`: `^` and `$` hold at every line. -/
  multiLine : Bool := false
  /-- `s`: the dot accepts line breaks. -/
  dotAll : Bool := false
  /-- `U`: repetitions are lazy unless marked. -/
  swapGreed : Bool := false
  /-- `u`: classes hold all of Unicode. -/
  unicode : Bool := true
  /-- `R`: carriage returns end lines. -/
  carriageReturn : Bool := false
  /-- `x`: white space and comments in the pattern do not count. -/
  verbose : Bool := false
  deriving Repr, DecidableEq

/-- The options with the one that a letter names switched on or off. -/
def Options.set? (o : Options) (letter : Char) (on : Bool) : Option Options :=
  match letter with
  | 'i' => some { o with ignoreCase := on }
  | 'm' => some { o with multiLine := on }
  | 's' => some { o with dotAll := on }
  | 'U' => some { o with swapGreed := on }
  | 'u' => some { o with unicode := on }
  | 'R' => some { o with carriageReturn := on }
  | 'x' => some { o with verbose := on }
  | _ => none

/-- Reads letters of options up to a colon or a closing parenthesis. Letters after a hyphen are
switched off. No letter and no hyphen may come twice, and a hyphen not last. `seen` holds what has
been read, the last first. -/
def readOptions (o : Options) (seen : List Char) : List Char → Option (Options × List Char)
  | [] => none
  | c :: rest =>
    if c = ':' ∨ c = ')' then
      if seen.head? = some '-' then none else some (o, c :: rest)
    else if seen.contains c then none
    else if c = '-' then readOptions o (c :: seen) rest
    else (o.set? c (!seen.contains '-')).bind fun o => readOptions o (c :: seen) rest

/-- The text without white space and comments at its start. -/
def dropComments (inComment : Bool) : List Char → List Char
  | [] => []
  | c :: rest =>
    if inComment then dropComments (c != '\n') rest
    else if c = '#' then dropComments true rest
    else if Unicode.isWhiteSpace c then dropComments false rest
    else c :: rest

/-- The text from the first character that counts. -/
def Options.skip (o : Options) (l : List Char) : List Char :=
  if o.verbose then dropComments false l else l

/-- The characters that count before a closing brace, and the text after it. -/
def readBraced (verbose inComment : Bool) : List Char → Option (List Char × List Char)
  | [] => none
  | c :: rest =>
    if inComment then readBraced verbose (c != '\n') rest
    else if verbose && c == '#' then readBraced verbose true rest
    else if verbose && Unicode.isWhiteSpace c then readBraced verbose false rest
    else if c = '\x7d' then some ([], rest)
    else (readBraced verbose false rest).map fun (s, rest) => (c :: s, rest)

end MarcHarvest.Pattern
