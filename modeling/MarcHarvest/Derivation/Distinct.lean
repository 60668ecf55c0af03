/-!
# Lists without repetitions

Values that are added only if they are not there yet.
-/

namespace MarcHarvest

/-- The list with `x` at its end, unless `x` occurs in it. -/
def addDistinct (l : List String) (x : String) : List String :=
  if l.contains x then l else l ++ [x]

/-- Adds the elements of `xs` one after the other, each unless it is there already. -/
def addAllDistinct (l xs : List String) : List String := xs.foldl addDistinct l

end MarcHarvest
