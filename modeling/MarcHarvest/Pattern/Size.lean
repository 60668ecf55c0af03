import MarcHarvest.Pattern.Basic
import MarcHarvest.Pattern.Extent

/-!
# Size of patterns

Patterns that are nested too deep or whose automaton would be too large are refused. The automaton
reads bytes. Its size is counted in bytes too: so much for each state, for each branch of a state
with branches and for each range of a state with ranges.
-/

namespace MarcHarvest

open Unicode

/-- The size of a state. -/
def stateSize : Nat := 32

/-- The size of a branch. -/
def branchSize : Nat := 4

/-- The size of a range. -/
def rangeSize : Nat := 8

/-- The size of the states that read the characters of a set: those of a single character one
after the other, those of a set of ASCII in one state, others by the bytes that they begin with. -/
def CharSet.size (s : CharSet) : Nat :=
  match s.spans with
  | [] => stateSize
  | [(a, b)] =>
    if a = b then stateSize * countBeginnings (byteSpans (a, b))
    else if b < 0x80 then 2 * stateSize
    else ofSequences (byteSpans (a, b))
  | spans =>
    if spans.all fun s => s.2 < 0x80 then 2 * stateSize + rangeSize * spans.length
    else ofSequences (spans.flatMap byteSpans)
where
  ofSequences (sequences : List (List Span)) : Nat :=
    stateSize * (countBeginnings sequences + 2) + branchSize * sequences.length

namespace Pattern

/-- A state with two branches. -/
def forkSize : Nat := stateSize + 2 * branchSize

/-- The size of the automaton of a pattern. Groups with a number mark their ends. -/
def size : Pattern → Nat
  | empty => stateSize
  | one s => s.size
  | assertion _ => stateSize
  | seq a b => a.size + b.size
  | alt a b => a.size + b.size + forkSize + stateSize
  | group number p => p.size + if number.isSome then 2 * stateSize else 0
  | times p least most _ =>
    match most with
    | some most =>
      if most = least then least * p.size
      else least * p.size + (most - least) * (p.size + forkSize) + stateSize
    | none => max least 1 * p.size + 2 * forkSize

/-- Whether the pattern is a sequence of several parts. -/
def isSeq : Pattern → Bool
  | seq _ _ => true
  | _ => false

/-- Whether the pattern has several alternatives. -/
def isAlt : Pattern → Bool
  | alt _ _ => true
  | _ => false

/-- How deep groups, repetitions, sequences and alternatives are nested. A sequence counts once
however many parts it has, and so do alternatives. -/
def depth : Pattern → Nat
  | empty => 0
  | one _ => 0
  | assertion _ => 0
  | seq a b => max (a.depth + 1) (if b.isSeq then b.depth else b.depth + 1)
  | alt a b => max (a.depth + 1) (if b.isAlt then b.depth else b.depth + 1)
  | group _ p => p.depth + 1
  | times p _ _ _ => p.depth + 1

def maxDepth : Nat := 250

def maxSize : Nat := 10 * 1024 * 1024

/-- The number of steps of a pattern, without compiling it. -/
def stepCount : Pattern → Nat
  | empty => 0
  | one _ => 1
  | assertion _ => 1
  | seq a b => a.stepCount + b.stepCount
  | alt a b => a.stepCount + b.stepCount + 2
  | group number p => p.stepCount + if number = some 1 then 2 else 0
  | times p least most _ =>
    match most with
    | some most => least * p.stepCount + (most - least) * (p.stepCount + 1)
    | none => max least 1 * p.stepCount + 2

/-- Whether a pattern is neither nested too deep nor too large. No single step is so large that 80
of them exceed the greatest size. -/
def isAllowed (p : Pattern) : Bool :=
  p.depth ≤ maxDepth && (p.stepCount ≤ 80 || p.size ≤ maxSize)

end Pattern

end MarcHarvest
