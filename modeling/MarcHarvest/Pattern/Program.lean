import MarcHarvest.Pattern.Basic

/-!
# Programs

A pattern as a list of steps, each of which accepts a character, checks an assertion, marks an end
of the first group, or says where to go on. Of two places to go on at, the first is preferred. A
program accepts at its end.

A step is named by its number, so every part is compiled for the number of its first step. The
length of a part does not depend on that number.
-/

namespace MarcHarvest.Pattern

/-- One step of a program. -/
inductive Step where
  | accept (s : CharSet)
  | check (a : Assertion)
  /-- The first group begins here. -/
  | openGroup
  /-- The first group ends here. -/
  | closeGroup
  | fork (first second : Nat)
  | jump (target : Nat)

/-- A fork that prefers to go on inside a repetition if it is greedy. -/
def Step.choose (greedy : Bool) (inside outside : Nat) : Step :=
  if greedy then .fork inside outside else .fork outside inside

/-- `n` copies of a part. -/
def copies (part : Nat → List Step) : (n base : Nat) → List Step
  | 0, _ => []
  | n + 1, base =>
    let steps := part base
    steps ++ copies part n (base + steps.length)

/-- At most `n` copies of a part. Every copy can be the last; `stop` is the step after all. -/
def optionalCopies (part : Nat → List Step) (greedy : Bool) (stop : Nat) :
    (n base : Nat) → List Step
  | 0, _ => []
  | n + 1, base =>
    let steps := part (base + 1)
    .choose greedy (base + 1) stop :: steps
      ++ optionalCopies part greedy stop n (base + 1 + steps.length)

/-- One copy of a part or more. -/
def oneOrMore (part : Nat → List Step) (greedy : Bool) (base : Nat) : List Step :=
  let steps := part base
  steps ++ [.choose greedy base (base + steps.length + 1)]

/-- Any number of copies of a part that takes a character. -/
def anyNumber (part : Nat → List Step) (greedy : Bool) (base : Nat) : List Step :=
  let steps := part (base + 1)
  .choose greedy (base + 1) (base + steps.length + 2) :: steps ++ [.jump base]

/-- One copy of a part or none. -/
def oneOrNone (part : Nat → List Step) (greedy : Bool) (base : Nat) : List Step :=
  let steps := part (base + 1)
  .choose greedy (base + 1) (base + steps.length + 1) :: steps

/-- The steps of a repetition. -/
def repetition (part : Nat → List Step) (canBeEmpty : Bool) (least : Nat) (most : Option Nat)
    (greedy : Bool) (base : Nat) : List Step :=
  match most with
  | some most =>
    let fixed := copies part least base
    let free := most - least
    let stop := base + fixed.length + free * ((part base).length + 1)
    fixed ++ optionalCopies part greedy stop free (base + fixed.length)
  | none => match least with
    | 0 =>
      -- An empty copy at the start still counts, so a part that can be empty is taken, if at all,
      -- once or more.
      if canBeEmpty then oneOrNone (oneOrMore part greedy) greedy base
      else anyNumber part greedy base
    | n + 1 =>
      let fixed := copies part n base
      fixed ++ oneOrMore part greedy (base + fixed.length)

/-- The steps of a pattern whose first step has the number `base`. -/
def compile : Pattern → (base : Nat) → List Step
  | empty, _ => []
  | one s, _ => [.accept s]
  | assertion a, _ => [.check a]
  | seq a b, base =>
    let first := a.compile base
    first ++ b.compile (base + first.length)
  | alt a b, base =>
    let first := a.compile (base + 1)
    let second := b.compile (base + first.length + 2)
    .fork (base + 1) (base + first.length + 2) :: first
      ++ .jump (base + first.length + second.length + 2) :: second
  | group number p, base =>
    if number = some 1 then .openGroup :: p.compile (base + 1) ++ [.closeGroup] else p.compile base
  | times p least most greedy, base =>
    repetition (fun n => p.compile n) p.canBeEmpty least most greedy base

end MarcHarvest.Pattern
