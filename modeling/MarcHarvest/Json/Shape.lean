import MarcHarvest.Json.Basic

/-!
# Structures in JSON

A structure with fixed keys is written as an object, or as an array of its values in order. In an
object other keys do not count, but none of its own may come twice. What comes last in an array can
be left out as a key can.
-/

namespace MarcHarvest.Json

/-- The value of a key, which must not come twice. -/
def soleMember? (key : String) (members : List (String × Json)) : Option (Option Json) :=
  match members.filter fun m => m.1 = key with
  | [] => some none
  | [m] => some (some m.2)
  | _ => none

/-- The values of a structure with these keys, as far as they are there. -/
def parts? (keys : List String) : Json → Option (List (Option Json))
  | object members => keys.mapM fun key => soleMember? key members
  | array items =>
    if items.length ≤ keys.length then
      some (items.map some ++ List.replicate (keys.length - items.length) none)
    else none
  | _ => none

/-- Reads a value that has to be there. -/
def required {α : Type} (read : Json → Option α) (j : Option Json) : Option α := j.bind read

/-- Reads a value that can be left out. -/
def withDefault {α : Type} (default : α) (read : Json → Option α) : Option Json → Option α
  | none => some default
  | some j => read j

/-- Reads a value that can be null. -/
def nullable {α : Type} (read : Json → Option α) : Json → Option (Option α)
  | null => some none
  | j => (read j).map some

/-- A text of exactly one character. -/
def char? (j : Json) : Option Char :=
  match j.text?.map String.toList with
  | some [c] => some c
  | _ => none

/-- Reads all items of an array. -/
def listOf? {α : Type} (read : Json → Option α) (j : Json) : Option (List α) :=
  j.items?.bind fun items => items.mapM read

/-- Reads an object whose values are all texts, in order, repeated keys included. -/
def textMembers? (j : Json) : Option (List (String × String)) :=
  j.members?.bind fun members => members.mapM fun m => m.2.text?.map fun value => (m.1, value)

/-- A text, or null if there is none. -/
def ofText? : Option String → Json
  | some s => text s
  | none => null

end MarcHarvest.Json
