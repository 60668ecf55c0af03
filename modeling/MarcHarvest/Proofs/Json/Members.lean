import Mathlib.Data.List.Induction
import MarcHarvest.Json.Basic
import MarcHarvest.Proofs.StableSort

/-!
# Objects as maps

The members of an object in order are what a map holds after they were written one after the other:
every key once, with its last value, the keys by their code points (`isMapOf_orderMembers`).
-/

namespace MarcHarvest.Json

/-- The value of a key among members as they are written: the last one that it has. -/
def lastValue? (key : String) (written : List (String × Json)) : Option Json :=
  (written.reverse.find? fun m => m.1 = key).map Prod.snd

def Ascending (members : List (String × Json)) : Prop := members.Pairwise fun a b => a.1 < b.1

/-- The members of a map into which other members were written. -/
structure IsMapOf (written members : List (String × Json)) : Prop where
  ascending : Ascending members
  mem_iff : ∀ key value, (key, value) ∈ members ↔ lastValue? key written = some value

theorem lastValue?_append_singleton (key : String) (written : List (String × Json))
    (m : String × Json) :
    lastValue? key (written ++ [m]) = if m.1 = key then some m.2 else lastValue? key written := by
  rw [lastValue?, List.reverse_append, List.reverse_singleton, List.singleton_append]
  by_cases h : m.1 = key
  · rw [List.find?_cons_of_pos (by simpa using h), if_pos h, Option.map_some]
  · rw [List.find?_cons_of_neg (by simpa using h), if_neg h, lastValue?]

theorem lt_of_not_lt_of_ne {a b : String} (h : ¬ a < b) (hne : a ≠ b) : b < a := by
  rcases String.le_total a b with hle | hle
  · exact absurd (String.le_antisymm hle (String.not_lt.mp h)) hne
  · exact String.not_le.mp fun h' => hne (String.le_antisymm h' hle)

theorem mem_placeMember {key : String} {value : Json} {l : List (String × Json)}
    (hl : Ascending l) {x : String × Json} :
    x ∈ placeMember key value l ↔ x = (key, value) ∨ x.1 ≠ key ∧ x ∈ l := by
  induction l with
  | nil => simp [placeMember]
  | cons m rest ih =>
    obtain ⟨hm, hrest⟩ := List.pairwise_cons.mp hl
    rw [placeMember]
    split
    · next hlt =>
      -- all keys of the list are greater
      have hne : ∀ y ∈ m :: rest, y.1 ≠ key := by
        rintro y hy rfl
        rcases List.mem_cons.mp hy with rfl | hy
        · exact String.lt_irrefl _ hlt
        · exact String.lt_irrefl _ (String.lt_trans hlt (hm y hy))
      rw [List.mem_cons]
      exact or_congr_right ⟨fun hx => ⟨hne x hx, hx⟩, And.right⟩
    · split
      · next heq =>
        have hne : ∀ y ∈ rest, y.1 ≠ key := by
          rintro y hy rfl
          exact String.lt_irrefl _ (heq ▸ hm y hy)
        rw [List.mem_cons, List.mem_cons]
        refine or_congr_right ⟨fun hx => ⟨hne x hx, Or.inr hx⟩, ?_⟩
        rintro ⟨hx, rfl | hmem⟩
        · exact absurd heq.symm hx
        · exact hmem
      · next heq =>
        rw [List.mem_cons, ih hrest, List.mem_cons]
        constructor
        · rintro (rfl | rfl | ⟨hne, hx⟩)
          · exact Or.inr ⟨fun h => heq h.symm, Or.inl rfl⟩
          · exact Or.inl rfl
          · exact Or.inr ⟨hne, Or.inr hx⟩
        · rintro (rfl | ⟨hne, rfl | hx⟩)
          · exact Or.inr (Or.inl rfl)
          · exact Or.inl rfl
          · exact Or.inr (Or.inr ⟨hne, hx⟩)

theorem Ascending.placeMember {key : String} {value : Json} {l : List (String × Json)}
    (hl : Ascending l) : Ascending (placeMember key value l) := by
  induction l with
  | nil => exact List.pairwise_singleton ..
  | cons m rest ih =>
    obtain ⟨hm, hrest⟩ := List.pairwise_cons.mp hl
    rw [Json.placeMember]
    split
    · next hlt =>
      refine List.pairwise_cons.mpr ⟨fun y hy => ?_, hl⟩
      rcases List.mem_cons.mp hy with rfl | hy
      · exact hlt
      · exact String.lt_trans hlt (hm y hy)
    · split
      · next heq => exact List.pairwise_cons.mpr ⟨fun y hy => heq ▸ hm y hy, hrest⟩
      · next hlt heq =>
        refine List.pairwise_cons.mpr ⟨fun y hy => ?_, ih hrest⟩
        rcases (mem_placeMember hrest).mp hy with rfl | ⟨-, hy⟩
        · exact lt_of_not_lt_of_ne hlt heq
        · exact hm y hy

theorem Ascending.nodup_keys {l : List (String × Json)} (hl : Ascending l) :
    (l.map Prod.fst).Nodup := by
  rw [List.Nodup, List.pairwise_map]
  refine hl.imp fun {a b} hab heq => ?_
  rw [heq] at hab
  exact String.lt_irrefl _ hab

/-- The members of an object in order are those of the map that they make. -/
theorem isMapOf_orderMembers (written : List (String × Json)) :
    IsMapOf written (orderMembers written) := by
  induction written using List.reverseRecOn with
  | nil => exact ⟨List.Pairwise.nil, fun key value => by simp [orderMembers, lastValue?]⟩
  | append_singleton written m ih =>
    obtain ⟨last, final⟩ := m
    have hplace : orderMembers (written ++ [(last, final)]) =
        placeMember last final (orderMembers written) := by
      rw [orderMembers, List.foldl_append]
      rfl
    rw [hplace]
    refine ⟨ih.ascending.placeMember, fun key value => ?_⟩
    rw [mem_placeMember ih.ascending, ih.mem_iff, lastValue?_append_singleton, Prod.mk.injEq]
    by_cases hkey : last = key
    · simp [hkey, eq_comm]
    · simp [hkey, Ne.symm hkey]

theorem lookup?_orderMembers (key : String) (written : List (String × Json)) :
    lookup? key (orderMembers written) = lastValue? key written := by
  have hmap := isMapOf_orderMembers written
  have hfound := fun m => StableSort.find?_eq_some_iff Prod.fst hmap.ascending.nodup_keys
    (a := m) (k := key)
  refine Option.ext fun value => ?_
  rw [← hmap.mem_iff, lookup?, Option.map_eq_some_iff]
  simp only [hfound]
  constructor
  · rintro ⟨⟨k, v⟩, ⟨hmem, rfl⟩, rfl⟩
    exact hmem
  · intro hmem
    exact ⟨(key, value), ⟨hmem, rfl⟩, rfl⟩

end MarcHarvest.Json
