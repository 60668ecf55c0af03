/-!
# Joining

Texts that are not empty, put together with a delimiter between them.
-/

namespace MarcHarvest.Text

/-- The texts that are not empty. -/
def nonEmpty (texts : List String) : List String := texts.filter fun t => !t.isEmpty

theorem not_isEmpty_eq (t : String) : (!t.isEmpty) = decide (t ≠ "") := by
  by_cases ht : t = "" <;> simp [ht]

theorem nonEmpty_eq_filter (texts : List String) : nonEmpty texts = texts.filter (· ≠ "") :=
  List.filter_congr fun t _ => not_isEmpty_eq t

/-- The join of the texts that are not empty; nothing if there are none. -/
def joinNonEmpty? (delimiter : String) (texts : List String) : Option String :=
  match nonEmpty texts with
  | [] => none
  | ts => some (delimiter.intercalate ts)

end MarcHarvest.Text
