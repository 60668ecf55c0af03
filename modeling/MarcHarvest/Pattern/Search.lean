import Std.Data.HashSet
import MarcHarvest.Pattern.Program

/-!
# Searching

The first match of a program in a text: the one that begins first and, of those, the one whose
choices are preferred. A search keeps a list of threads in order of preference and never follows
two threads through the same step at the same place, so it ends after as many steps as there are
pairs of steps and places.
-/

namespace MarcHarvest.Pattern

/-- A place in a text: what lies before it, nearest first, and what follows. -/
structure Place where
  before : List Char
  after : List Char
  deriving Repr, DecidableEq

namespace Place

/-- The number of characters before a place. -/
def offset (p : Place) : Nat := p.before.length

/-- The text from an earlier place to this one. -/
def since (p : Place) (start : Nat) : List Char := (p.before.take (p.offset - start)).reverse

/-- All places of a text from this one on. -/
def onwards (before : List Char) : List Char → List Place
  | [] => [⟨before, []⟩]
  | c :: rest => ⟨before, c :: rest⟩ :: onwards (c :: before) rest

end Place

/-- A thread of a search: the step it is at, its place, where it began, and what it knows of the
first group: where it was last opened and what it last held. -/
structure Thread where
  step : Nat
  place : Place
  start : List Char
  opened : Nat
  group : Option (List Char)

/-- A match: what lies before it, what the first group held, and what follows. -/
structure Match where
  before : List Char
  group : Option (List Char)
  after : List Char
  deriving Repr, DecidableEq

namespace Thread

/-- What becomes of a thread in one step, in order of preference. -/
def next (t : Thread) : Step → List Thread
  | .accept s => match t.place.after with
    | [] => []
    | c :: rest =>
      if s.contains c then
        [{ t with step := t.step + 1, place := ⟨c :: t.place.before, rest⟩ }]
      else []
  | .check a =>
    if a.holds t.place.before.head? t.place.after.head? then [{ t with step := t.step + 1 }]
    else []
  | .openGroup => [{ t with step := t.step + 1, opened := t.place.offset }]
  | .closeGroup => [{ t with step := t.step + 1, group := some (t.place.since t.opened) }]
  | .fork first second => [{ t with step := first }, { t with step := second }]
  | .jump target => [{ t with step := target }]

/-- The match of a thread at the end of its program. -/
def toMatch (t : Thread) : Match := ⟨t.start.reverse, t.group, t.place.after⟩

end Thread

/-- Follows threads in order until one reaches the end of the program. -/
def explore (program : Array Step) : (fuel : Nat) → (visited : Std.HashSet (Nat × Nat)) →
    List Thread → Option Match
  | 0, _, _ => none
  | _, _, [] => none
  | fuel + 1, visited, t :: todo =>
    if visited.contains (t.step, t.place.offset) then explore program fuel visited todo
    else match program[t.step]? with
      | none => some t.toMatch
      | some s =>
        explore program fuel (visited.insert (t.step, t.place.offset)) (t.next s ++ todo)

/-- The first match of a program. Every step at every place is followed at most once and leaves at
most two threads. -/
def search? (program : Array Step) (text : List Char) : Option Match :=
  let starts := (Place.onwards [] text).map fun p => (⟨0, p, p.before, 0, none⟩ : Thread)
  explore program ((2 * program.size + 3) * (text.length + 1) + 1) ∅ starts

end MarcHarvest.Pattern
