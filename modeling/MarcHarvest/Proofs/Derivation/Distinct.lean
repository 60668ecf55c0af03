import MarcHarvest.Derivation.Distinct
import MarcHarvest.Proofs.OrderedMap

/-!
# Lists without repetitions

Adding values that are not there yet keeps the list and appends what it lacks, in the order in which the
values first come (`exists_addAllDistinct_eq_append`). From nothing this is the list of first
occurrences (`addAllDistinct_nil`), and a list may be replaced by its first occurrences before others
are added (`eraseDups_append_eraseDups`).
-/

namespace MarcHarvest

/-- What is added to a list with more elements is what is added to the elements alone, without
those of the list. -/
theorem addAllDistinct_append_filter (l m xs : List String) :
    addAllDistinct (l ++ m.filter (· ∉ l)) xs = l ++ (addAllDistinct m xs).filter (· ∉ l) := by
  induction xs generalizing m with
  | nil => rfl
  | cons x xs ih =>
    have hstep : addDistinct (l ++ m.filter (· ∉ l)) x = l ++ (addDistinct m x).filter (· ∉ l) := by
      by_cases hl : x ∈ l
      · by_cases hm : x ∈ m <;> simp [addDistinct, hl, hm]
      · by_cases hm : x ∈ m <;> simp [addDistinct, hl, hm]
    have hadd : ∀ n : List String,
        addAllDistinct n (x :: xs) = addAllDistinct (addDistinct n x) xs := fun n => rfl
    rw [hadd, hadd, hstep, ih]

theorem addAllDistinct_eq_append (l xs : List String) :
    addAllDistinct l xs = l ++ (addAllDistinct [] xs).filter (· ∉ l) := by
  simpa using addAllDistinct_append_filter l [] xs

theorem addAllDistinct_nil (xs : List String) : addAllDistinct [] xs = xs.eraseDups := by
  induction xs using List.reverseRecOn with
  | nil => rfl
  | append_singleton xs x ih =>
    have hstep : addAllDistinct [] (xs ++ [x]) = addDistinct (addAllDistinct [] xs) x :=
      List.foldl_append
    rw [hstep, ih, addDistinct, OrderedMap.eraseDups_append_singleton]
    simp

/-- What is added to a list are the elements that it lacks, in the order in which they first
come. -/
theorem exists_addAllDistinct_eq_append (l xs : List String) :
    ∃ new, addAllDistinct l xs = l ++ new ∧ (∀ x, x ∈ new ↔ x ∈ xs ∧ x ∉ l) ∧
      new.Pairwise fun x y => xs.idxOf x < xs.idxOf y := by
  refine ⟨xs.eraseDups.filter (· ∉ l), ?_, fun x => ?_, ?_⟩
  · rw [addAllDistinct_eq_append, addAllDistinct_nil]
  · rw [List.mem_filter, List.mem_eraseDups, decide_eq_true_eq]
  · exact (OrderedMap.pairwise_idxOf_eraseDups xs).filter _

theorem mem_addAllDistinct {l xs : List String} {x : String} :
    x ∈ addAllDistinct l xs ↔ x ∈ l ∨ x ∈ xs := by
  obtain ⟨new, heq, hmem, -⟩ := exists_addAllDistinct_eq_append l xs
  rw [heq, List.mem_append, hmem]
  tauto

theorem addAllDistinct_of_subset {l xs : List String} (h : xs ⊆ l) : addAllDistinct l xs = l := by
  obtain ⟨new, heq, hmem, -⟩ := exists_addAllDistinct_eq_append l xs
  have hnil : new = [] := List.eq_nil_iff_forall_not_mem.mpr fun x hx =>
    ((hmem x).mp hx).2 (h ((hmem x).mp hx).1)
  rw [heq, hnil, List.append_nil]

theorem addAllDistinct_append (l xs ys : List String) :
    addAllDistinct l (xs ++ ys) = addAllDistinct (addAllDistinct l xs) ys :=
  List.foldl_append

theorem nodup_addAllDistinct_nil (xs : List String) : (addAllDistinct [] xs).Nodup := by
  rw [addAllDistinct_nil]
  exact OrderedMap.nodup_of_pairwise_idxOf (OrderedMap.pairwise_idxOf_eraseDups xs)

theorem addAllDistinct_addAllDistinct_nil (xs : List String) :
    addAllDistinct [] (addAllDistinct [] xs) = addAllDistinct [] xs := by
  induction xs using List.reverseRecOn with
  | nil => rfl
  | append_singleton xs x ih =>
    have hstep : ∀ l, addAllDistinct [] (l ++ [x]) = addDistinct (addAllDistinct [] l) x := fun l =>
      addAllDistinct_append [] l [x]
    rw [hstep]
    by_cases hx : x ∈ addAllDistinct [] xs
    · have hkeep : addDistinct (addAllDistinct [] xs) x = addAllDistinct [] xs :=
        if_pos (List.contains_iff_mem.mpr hx)
      rw [hkeep, ih]
    · have hadd : addDistinct (addAllDistinct [] xs) x = addAllDistinct [] xs ++ [x] :=
        if_neg (mt List.contains_iff_mem.mp hx)
      rw [hadd, hstep, ih, hadd]

/-- Values that come again add nothing, whichever list they come in. -/
theorem eraseDups_append_eraseDups (xs ys : List String) :
    (xs.eraseDups ++ ys.eraseDups).eraseDups = (xs ++ ys).eraseDups := by
  simp only [← addAllDistinct_nil]
  calc addAllDistinct [] (addAllDistinct [] xs ++ addAllDistinct [] ys)
      = addAllDistinct (addAllDistinct [] xs) (addAllDistinct [] ys) := by
        rw [addAllDistinct_append, addAllDistinct_addAllDistinct_nil]
    _ = addAllDistinct (addAllDistinct [] xs) ys := by
        rw [addAllDistinct_eq_append _ (addAllDistinct [] ys), addAllDistinct_addAllDistinct_nil,
          ← addAllDistinct_eq_append]
    _ = addAllDistinct [] (xs ++ ys) := (addAllDistinct_append [] xs ys).symm

end MarcHarvest
