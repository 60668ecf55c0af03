/-!
# JSON values

Values as their text writes them: an object is a list of members in which a key may come twice,
and a number keeps its digits. `orderedMembers` is the view of an object as a map.
-/

namespace MarcHarvest

/-- A number, `mantissa · 10 ^ exponent` with a sign. -/
structure JsonNumber where
  negative : Bool
  mantissa : Nat
  exponent : Int
  deriving Repr, DecidableEq, Inhabited

inductive Json where
  | null
  | bool (value : Bool)
  | number (value : JsonNumber)
  | text (value : String)
  | array (items : List Json)
  | object (members : List (String × Json))
  /-- A text with half of a surrogate pair, which is no sequence of characters, or an object with
  such a key. It can stand where nobody reads it. -/
  | broken
  deriving Inhabited

namespace Json

/-- The text of a value that is one. -/
def text? : Json → Option String
  | text s => some s
  | _ => none

/-- The truth value of a value that is one. -/
def bool? : Json → Option Bool
  | bool b => some b
  | _ => none

def items? : Json → Option (List Json)
  | array items => some items
  | _ => none

/-- The members of an object as they are written. -/
def members? : Json → Option (List (String × Json))
  | object members => some members
  | _ => none

/-- Puts a member in its place among members in order of their keys; a member with the same key
gives way. -/
def placeMember (key : String) (value : Json) : List (String × Json) → List (String × Json)
  | [] => [(key, value)]
  | m :: rest =>
    if key < m.1 then (key, value) :: m :: rest
    else if key = m.1 then (key, value) :: rest
    else m :: placeMember key value rest

/-- The members of an object in the order of their keys by code points. Of members with the same
key the last one counts. -/
def orderMembers (members : List (String × Json)) : List (String × Json) :=
  members.foldl (fun l m => placeMember m.1 m.2 l) []

/-- The members of an object in the order of their keys. -/
def orderedMembers? (j : Json) : Option (List (String × Json)) := j.members?.map orderMembers

def lookup? (key : String) (members : List (String × Json)) : Option Json :=
  (members.find? fun m => m.1 = key).map Prod.snd

end Json

end MarcHarvest
