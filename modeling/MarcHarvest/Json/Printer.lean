import MarcHarvest.Json.Basic

/-!
# Writing JSON

A value is written without white space, its members in their order. Within texts only quotes,
backslashes and control characters are escaped.
-/

namespace MarcHarvest.Json

/-- A character as it stands in a text. -/
def escape (c : Char) : List Char :=
  match c with
  | '"' => ['\\', '"']
  | '\\' => ['\\', '\\']
  | '\x08' => ['\\', 'b']
  | '\x0c' => ['\\', 'f']
  | '\n' => ['\\', 'n']
  | '\r' => ['\\', 'r']
  | '\t' => ['\\', 't']
  | c =>
    if c.toNat < 0x20 then
      ['\\', 'u', '0', '0', Nat.digitChar (c.toNat / 16), Nat.digitChar (c.toNat % 16)]
    else [c]

def printText (s : String) : List Char := '"' :: (s.toList.flatMap escape ++ ['"'])

/-- An integer with a sign if it is negative. -/
def printInt : Int → List Char
  | .ofNat n => Nat.toDigits 10 n
  | .negSucc n => '-' :: Nat.toDigits 10 (n + 1)

/-- A number as an integer with an exponent. -/
def printNumber (x : JsonNumber) : List Char :=
  (if x.negative then ['-'] else []) ++ Nat.toDigits 10 x.mantissa ++ 'e' :: printInt x.exponent

mutual

/-- A value as it is written. What is broken is written as half of a surrogate pair. -/
def print : Json → List Char
  | null => "null".toList
  | bool b => if b then "true".toList else "false".toList
  | number x => printNumber x
  | text s => printText s
  | array items => '[' :: printItems items
  | object members => '\x7b' :: printMembers members
  | broken => "\"\\ud800\"".toList

/-- The items of an array up to its closing bracket. -/
def printItems : List Json → List Char
  | [] => [']']
  | [j] => j.print ++ [']']
  | j :: rest => j.print ++ ',' :: printItems rest

/-- The members of an object up to its closing brace. -/
def printMembers : List (String × Json) → List Char
  | [] => ['\x7d']
  | [(key, j)] => printText key ++ ':' :: (j.print ++ ['\x7d'])
  | (key, j) :: rest => printText key ++ ':' :: (j.print ++ ',' :: printMembers rest)

end

section

variable (j k : Json) (key : String) (items : List Json) (members : List (String × Json))

@[simp] theorem print_number (x : JsonNumber) : print (.number x) = printNumber x := rfl

@[simp] theorem print_text (s : String) : print (.text s) = printText s := rfl

@[simp] theorem print_array : print (.array items) = '[' :: printItems items := rfl

@[simp] theorem print_object : print (.object members) = '\x7b' :: printMembers members := rfl

@[simp] theorem printItems_nil : printItems [] = [']'] := rfl

@[simp] theorem printItems_singleton : printItems [j] = j.print ++ [']'] := rfl

@[simp] theorem printItems_cons_cons :
    printItems (j :: k :: items) = j.print ++ ',' :: printItems (k :: items) := rfl

@[simp] theorem printMembers_nil : printMembers [] = ['\x7d'] := rfl

@[simp] theorem printMembers_singleton :
    printMembers [(key, j)] = printText key ++ ':' :: (j.print ++ ['\x7d']) := rfl

@[simp] theorem printMembers_cons_cons (m : String × Json) :
    printMembers ((key, j) :: m :: members) =
      printText key ++ ':' :: (j.print ++ ',' :: printMembers (m :: members)) := rfl

end

def toText (j : Json) : String := String.ofList j.print

end MarcHarvest.Json
