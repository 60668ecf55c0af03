import Std.Data.HashSet
import MarcHarvest.Record.Linkage

/-!
# Interest

Which fields of a record an index has to hold: a set of data field tags, and whether control
fields are needed at all.
-/

namespace MarcHarvest

/-- The tags that a group of extractors reads, and whether it reads control fields. -/
structure Interest where
  tags : Std.HashSet String
  control : Bool

namespace Interest

/-- The least interest. The tag of alternate scripts always belongs to it, or else no link could
be followed. -/
def least : Interest := ⟨(∅ : Std.HashSet String).insert alternateTag, false⟩

def addTag (i : Interest) (tag : String) : Interest := { i with tags := i.tags.insert tag }

def addTags (i : Interest) (tags : List String) : Interest := tags.foldl addTag i

def requireControl (i : Interest) : Interest := { i with control := true }

def contains (i : Interest) (tag : String) : Bool := i.tags.contains tag

@[simp] theorem contains_least (tag : String) : least.contains tag = (alternateTag == tag) := by
  simp [least, contains]

@[simp] theorem control_least : least.control = false := rfl

@[simp] theorem contains_addTag (i : Interest) (t tag : String) :
    (i.addTag t).contains tag = (t == tag || i.contains tag) := by
  simp [addTag, contains]

@[simp] theorem control_addTag (i : Interest) (t : String) : (i.addTag t).control = i.control := rfl

@[simp] theorem contains_requireControl (i : Interest) (tag : String) :
    i.requireControl.contains tag = i.contains tag := rfl

@[simp] theorem control_requireControl (i : Interest) : i.requireControl.control = true := rfl

@[simp] theorem contains_addTags (i : Interest) (tags : List String) (tag : String) :
    (i.addTags tags).contains tag = (tags.contains tag || i.contains tag) := by
  induction tags generalizing i with
  | nil => simp [addTags]
  | cons t rest ih =>
    have h : (i.addTags (t :: rest)) = (i.addTag t).addTags rest := rfl
    rw [h, ih, contains_addTag, List.contains_cons, Bool.beq_comm]
    cases (tag == t) <;> simp

@[simp] theorem control_addTags (i : Interest) (tags : List String) :
    (i.addTags tags).control = i.control := by
  induction tags generalizing i with
  | nil => rfl
  | cons t rest ih => exact (ih (i.addTag t)).trans rfl

end Interest

end MarcHarvest
