/-!
# Splitting

A text as the pieces between its separators, and as chunks of equal length.
-/

namespace MarcHarvest.Text

/-- The pieces between the separators, empty ones included. -/
def splitOn (sep : Char) : List Char → List (List Char)
  | [] => [[]]
  | c :: rest =>
    if c = sep then [] :: splitOn sep rest
    else match splitOn sep rest with
      | [] => [[c]]
      | piece :: pieces => (c :: piece) :: pieces

/-- The first three characters, the next three, and so on; a shorter remainder is dropped. -/
def triples : List Char → List (List Char)
  | a :: b :: c :: rest => [a, b, c] :: triples rest
  | _ => []

end MarcHarvest.Text
