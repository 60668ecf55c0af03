import MarcHarvest.Pattern.Reader.Escape

/-!
# Bracketed classes

Sets of characters between brackets: characters, ranges, escapes, named ASCII classes and nested
classes side by side make a union. `&&`, `--` and `~~` combine what stands before and after them,
from left to right.
-/

namespace MarcHarvest.Pattern

open Unicode

/-- An operation between two sets. -/
inductive SetOperator where
  | inter
  | diff
  | symmDiff
  deriving Repr, DecidableEq

/-- The result of an operation. -/
def SetOperator.apply : SetOperator → CharSet → CharSet → CharSet
  | inter, a, b => .inter a b
  | diff, a, b => .diff a b
  | symmDiff, a, b => .symmDiff a b

/-- What stands left of the current union: a set and the operator after it. -/
abbrev LeftOperand := Option (CharSet × SetOperator)

/-- Completes a pending operation with the current union. -/
def Options.combine (o : Options) (left : LeftOperand) (set : CharSet) : CharSet :=
  match left with
  | none => set
  | some (l, op) => op.apply (o.fold l) (o.fold set)

/-- The set of a whole bracket. -/
def Options.closeClass? (o : Options) (negated : Bool) (set : CharSet) : Option CharSet :=
  o.negate? negated (o.fold set)

/-- A character in a class. Outside Unicode only ASCII is allowed. -/
def Options.classLiteral? (o : Options) (c : Char) : Option Escape :=
  if o.unicode || isAscii c then some (.literal c) else none

/-- Reads the hyphens at the start of a class. -/
def readHyphens (o : Options) (n : Nat) (set : CharSet) (l : List Char) : CharSet × List Char :=
  match n, o.skip l with
  | n + 1, '-' :: rest => readHyphens o n (.union set (.single '-')) rest
  | _, l => (set, l)

/-- Reads the start of a class after its bracket: a caret negates, and then hyphens and a closing
bracket stand for themselves. -/
def readClassStart (o : Options) (l : List Char) : Bool × CharSet × List Char :=
  let (negated, l) := match o.skip l with
    | '^' :: rest => (true, o.skip rest)
    | l => (false, l)
  match l with
  | ']' :: rest => (negated, .single ']', rest)
  | l => (negated, readHyphens o l.length .none l)

/-- Reads a named ASCII class, `[:name:]` or `[:^name:]`, after its first bracket. Whether the name
is known is part of the question: otherwise the bracket opens a nested class. -/
def readAsciiClass? (l : List Char) : Option (Bool × CharSet × List Char) :=
  match l with
  | ':' :: rest => do
    let (negated, rest) := match rest with
      | '^' :: rest => (true, rest)
      | rest => (false, rest)
    let (name, rest) ← splitAtFirst? [':'] rest
    match rest with
    | ']' :: rest => return (negated, ← CharSet.asciiNamed? (String.ofList name), rest)
    | _ => none
  | _ => none

/-- Reads one item of a class. -/
def readClassItem (o : Options) : List Char → Option (Escape × List Char)
  | [] => none
  | '\\' :: rest => do
    let (e, rest) ← readEscape o rest
    match e with
    | .literal c => return (← o.classLiteral? c, rest)
    | .class s => return (.class s, rest)
    | .assertion _ => none
  | c :: rest => (o.classLiteral? c).map fun e => (e, rest)

/-- The set of an item. -/
def Escape.set : Escape → CharSet
  | literal c => .single c
  | .class s => s
  | assertion _ => .none

/-- Whether a hyphen before this text is a character of its own. -/
def hyphenStandsAlone (o : Options) (rest : List Char) : Bool :=
  match o.skip rest with
  | ']' :: _ => true
  | '-' :: _ => true
  | _ => false

/-- Reads an item, or a range of characters with its ends in order. -/
def readClassRange (o : Options) (l : List Char) : Option (CharSet × List Char) := do
  let (first, rest) ← readClassItem o l
  match o.skip rest with
  | '-' :: tail =>
    if hyphenStandsAlone o tail then return (first.set, '-' :: tail)
    else
      let (last, rest) ← readClassItem o (o.skip tail)
      match first, last with
      | .literal a, .literal b => if a ≤ b then return (.range a b, rest) else none
      | _, _ => none
  | rest => return (first.set, rest)

/-- Reads the items of a class up to its closing bracket: the set and how deep brackets nest, its
own included. `set` is the union read since the last operator and `nested` how deep the brackets
inside have nested so far. The text gets shorter in every step, so its length is fuel enough. -/
def readClassItems (o : Options) : Nat → LeftOperand → CharSet → (nested : Nat) → List Char →
    Option ((CharSet × Nat) × List Char)
  | 0, _, _, _, _ => none
  | fuel + 1, left, set, nested, l =>
    let operator := fun op rest =>
      readClassItems o fuel (some (o.combine left set, op)) .none nested rest
    match o.skip l with
    | [] => none
    | ']' :: rest => some ((o.combine left set, nested + 1), rest)
    | '[' :: rest => match readAsciiClass? rest with
      | some (negated, s, rest) => do
        let s ← o.negate? negated (o.fold s)
        readClassItems o fuel left (.union set s) nested rest
      | none => do
        let (negated, start, rest) := readClassStart o rest
        let ((s, inner), rest) ← readClassItems o fuel none start 0 rest
        let s ← o.closeClass? negated s
        readClassItems o fuel left (.union set s) (max nested inner) rest
    | '&' :: '&' :: rest => operator .inter rest
    | '-' :: '-' :: rest => operator .diff rest
    | '~' :: '~' :: rest => operator .symmDiff rest
    | l => do
      let (s, rest) ← readClassRange o l
      readClassItems o fuel left (.union set s) nested rest

/-- Reads a class after its opening bracket: its set and how deep its brackets nest. -/
def readClass (o : Options) (l : List Char) : Option ((CharSet × Nat) × List Char) := do
  let (negated, start, rest) := readClassStart o l
  let ((s, nesting), rest) ← readClassItems o (l.length + 1) none start 0 rest
  return ((← o.closeClass? negated s, nesting), rest)

end MarcHarvest.Pattern
