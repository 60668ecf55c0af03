import MarcHarvest.Unicode.CodeSet

/-!
# Spans

Sets of code points as lists of spans that rise and do not touch, which is the form in which they
can be counted.
-/

namespace MarcHarvest.Unicode

/-- The code points from the first to the last, ends included. -/
abbrev Span := Nat × Nat

namespace Span

/-- The last code point. -/
def top : Nat := 0x10ffff

/-- Joins a span with those after it that it touches. -/
def joinTo (s : Span) : List Span → List Span
  | [] => [s]
  | t :: rest =>
    if t.1 ≤ s.2 + 1 then joinTo (s.1, max s.2 t.2) rest else s :: joinTo t rest

/-- The spans of a set that is given by spans in any order. -/
def normalize (l : List Span) : List Span :=
  match l.mergeSort fun s t => s.1 ≤ t.1 with
  | [] => []
  | s :: rest => joinTo s rest

/-- The code points from `n` on that lie in none of the spans. -/
def complementFrom (n : Nat) : List Span → List Span
  | [] => if n ≤ top then [(n, top)] else []
  | s :: rest =>
    if n < s.1 then (n, s.1 - 1) :: complementFrom (s.2 + 1) rest
    else complementFrom (s.2 + 1) rest

/-- All code points that lie in none of the spans. -/
def complement (l : List Span) : List Span := complementFrom 0 l

def union (a b : List Span) : List Span := normalize (a ++ b)

def inter (a b : List Span) : List Span := complement (union (complement a) (complement b))

def total (l : List Span) : Nat := l.foldl (fun n s => n + (s.2 + 1 - s.1)) 0

def members (l : List Span) : List Nat :=
  l.flatMap fun s => (List.range (s.2 + 1 - s.1)).map fun i => s.1 + i

end Span

def CodeSet.spans (s : CodeSet) : List Span :=
  Span.normalize (s.ranges ++ s.alternating.flatMap fun r =>
    (List.range ((r.2 - r.1) / 2 + 1)).map fun i => (r.1 + 2 * i, r.1 + 2 * i))

end MarcHarvest.Unicode
