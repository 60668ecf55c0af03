import MarcHarvest.Pattern.CharSet

/-!
# Patterns

Regular expressions over characters, with every option already worked into the sets and
assertions that it concerns.
-/

namespace MarcHarvest

/-- How a place has to lie to the words around it. -/
inductive WordPlace where
  | boundary
  | inside
  | start
  | stop
  | startHalf
  | stopHalf
  deriving Repr, DecidableEq

/-- Whether a place after (`before`) and before (`after`) a character of a word lies as asked. -/
def WordPlace.holds : WordPlace → (before after : Bool) → Bool
  | boundary, b, a => b != a
  | inside, b, a => b == a
  | start, b, a => !b && a
  | stop, b, a => b && !a
  | startHalf, b, _ => !b
  | stopHalf, _, a => !a

/-- A condition on a place of a text. -/
inductive Assertion where
  | textStart
  | textEnd
  | lineStart
  | lineEnd
  /-- The start of a line where carriage returns end lines too. -/
  | lineStartReturn
  /-- The end of a line where carriage returns end lines too. -/
  | lineEndReturn
  | word (place : WordPlace) (ascii : Bool)
  deriving Repr, DecidableEq

namespace Assertion

/-- Whether a character, if there is one, belongs to a word. -/
def inWord (ascii : Bool) (c : Option Char) : Bool :=
  c.any fun c => if ascii then CharSet.asciiWord.contains c else Unicode.isWord .v16 c

/-- Whether a condition holds between two neighbours, either of which is missing at an end of the
text. -/
def holds : Assertion → (before after : Option Char) → Bool
  | textStart, b, _ => b.isNone
  | textEnd, _, a => a.isNone
  | lineStart, b, _ => b.isNone || b == some '\n'
  | lineEnd, _, a => a.isNone || a == some '\n'
  | lineStartReturn, b, a => b.isNone || b == some '\n' || (b == some '\r' && a != some '\n')
  | lineEndReturn, b, a => a.isNone || a == some '\r' || (a == some '\n' && b != some '\r')
  | word place ascii, b, a => place.holds (inWord ascii b) (inWord ascii a)

end Assertion

inductive Pattern where
  | empty
  | one (s : CharSet)
  | assertion (a : Assertion)
  | seq (a b : Pattern)
  /-- The second pattern counts only where the first one fails. -/
  | alt (a b : Pattern)
  /-- A part of its own, with or without a number. -/
  | group (number : Option Nat) (p : Pattern)
  /-- `p` at least `least` times and, if there is a bound, at most `most` times; as often as
  possible if greedy, else as seldom as possible. -/
  | times (p : Pattern) (least : Nat) (most : Option Nat) (greedy : Bool)

namespace Pattern

/-- Whether a pattern can match without a character. -/
def canBeEmpty : Pattern → Bool
  | empty => true
  | one _ => false
  | assertion _ => true
  | seq a b => a.canBeEmpty && b.canBeEmpty
  | alt a b => a.canBeEmpty || b.canBeEmpty
  | group _ p => p.canBeEmpty
  | times p least _ _ => least == 0 || p.canBeEmpty

def seqAll : List Pattern → Pattern
  | [] => empty
  | [p] => p
  | p :: ps => seq p (seqAll ps)

/-- The first pattern that matches. -/
def altAll : List Pattern → Pattern
  | [] => empty
  | [p] => p
  | p :: ps => alt p (altAll ps)

end Pattern

end MarcHarvest
