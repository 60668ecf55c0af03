import Mathlib.Data.List.Nodup
import Mathlib.Data.List.Perm.Basic

/-!
# Stable sorting by a key

A stable sort by a key is the concatenation of its buckets: for the keys in ascending order, the
elements with that key as they stood before (`mergeSort_eq_flatMap`). Nothing else is needed to read
off what a sort does to values that carry their place.
-/

namespace MarcHarvest.StableSort

/-- A comparison of keys that is a linear order. -/
structure IsOrder {κ : Type} (le : κ → κ → Bool) : Prop where
  trans : ∀ a b c, le a b → le b c → le a c
  total : ∀ a b, le a b || le b a
  antisymm : ∀ a b, le a b → le b a → a = b

variable {α κ : Type} {le : κ → κ → Bool}

theorem IsOrder.refl (o : IsOrder le) (a : κ) : le a a := by
  simpa using o.total a a

theorem isOrder_nat : IsOrder fun m n : Nat => decide (m ≤ n) where
  trans a b c := by simpa only [decide_eq_true_eq] using Nat.le_trans
  total a b := by simpa only [Bool.or_eq_true, decide_eq_true_eq] using Nat.le_total a b
  antisymm a b := by simpa only [decide_eq_true_eq] using Nat.le_antisymm

variable (key : α → κ)

theorem pairwise_mergeSort (o : IsOrder le) (l : List α) :
    (l.mergeSort fun a b => le (key a) (key b)).Pairwise fun a b => le (key a) (key b) :=
  List.pairwise_mergeSort (fun a b c => o.trans (key a) (key b) (key c))
    (fun a b => o.total (key a) (key b)) l

theorem mergeSort_eq_of_perm (o : IsOrder le) {l l' : List α} (hperm : l.Perm l')
    (hsorted : l'.Pairwise fun a b => le (key a) (key b)) (hkeys : (l'.map key).Nodup) :
    (l.mergeSort fun a b => le (key a) (key b)) = l' := by
  have hmem : ∀ {a}, a ∈ l.mergeSort (fun a b => le (key a) (key b)) → a ∈ l' :=
    fun ha => hperm.subset (List.mem_mergeSort.mp ha)
  refine List.Perm.eq_of_pairwise ?_ (pairwise_mergeSort key o l) hsorted
    ((List.mergeSort_perm l _).trans hperm)
  intro a b ha hb hab hba
  exact List.inj_on_of_nodup_map hkeys (hmem ha) hb (o.antisymm _ _ hab hba)

variable [DecidableEq κ]

/-! ## One bucket -/

/-- A sort leaves the elements of one key in their order. -/
theorem filter_mergeSort (o : IsOrder le) (l : List α) (k : κ) :
    (l.mergeSort fun a b => le (key a) (key b)).filter (fun a => key a = k) =
      l.filter fun a => key a = k := by
  have htied : (l.filter fun a => key a = k).Pairwise fun a b => le (key a) (key b) := by
    rw [List.pairwise_iff_forall_sublist]
    intro a b hab
    have ha := List.of_mem_filter (hab.subset (List.mem_cons_self ..))
    have hb := List.of_mem_filter (hab.subset (List.mem_cons_of_mem _ (List.mem_cons_self ..)))
    simp only [decide_eq_true_eq] at ha hb
    rw [ha, hb]
    exact o.refl k
  have hsub := List.sublist_mergeSort (fun a b c => o.trans (key a) (key b) (key c))
    (fun a b => o.total (key a) (key b)) htied List.filter_sublist
  have hfilter := hsub.filter fun a => decide (key a = k)
  rw [List.filter_filter] at hfilter
  simp only [Bool.and_self] at hfilter
  refine (hfilter.eq_of_length ?_).symm
  exact ((List.mergeSort_perm l _).filter _).length_eq.symm

theorem filter_eq_singleton {l : List α} (hl : (l.map key).Nodup) {a : α} (ha : a ∈ l) :
    l.filter (fun b => key b = key a) = [a] := by
  induction l with
  | nil => simp at ha
  | cons b rest ih =>
    obtain ⟨hb, hrest⟩ := List.nodup_cons.mp hl
    rcases List.mem_cons.mp ha with rfl | ha
    · have hnone : rest.filter (fun c => key c = key a) = [] := by
        rw [List.filter_eq_nil_iff]
        intro c hc
        have : key c ≠ key a := fun h => hb (h ▸ List.mem_map_of_mem hc)
        simpa using this
      rw [List.filter_cons_of_pos (by simp), hnone]
    · have hne : key b ≠ key a := fun h => hb (h ▸ List.mem_map_of_mem ha)
      rw [List.filter_cons_of_neg (by simpa using hne), ih hrest ha]

theorem find?_eq_some_iff {l : List α} (hl : (l.map key).Nodup) {a : α} {k : κ} :
    l.find? (fun b => key b = k) = some a ↔ a ∈ l ∧ key a = k := by
  constructor
  · intro h
    exact ⟨List.mem_of_find?_eq_some h, by simpa using List.find?_some h⟩
  · rintro ⟨ha, rfl⟩
    rw [← List.head?_filter, filter_eq_singleton key hl ha, List.head?_cons]

theorem filter_filter_eq_singleton {l : List α} (hl : (l.map key).Nodup) {a : α} (ha : a ∈ l)
    (q : α → Bool) :
    (l.filter q).filter (fun b => key b = key a) = if q a then [a] else [] := by
  have hcomm : (l.filter q).filter (fun b => key b = key a) =
      (l.filter fun b => key b = key a).filter q := by
    simp only [List.filter_filter, Bool.and_comm]
  rw [hcomm, filter_eq_singleton key hl ha]
  by_cases hq : q a
  · rw [List.filter_cons_of_pos hq, List.filter_nil, if_pos hq]
  · rw [List.filter_cons_of_neg hq, List.filter_nil, if_neg hq]

/-! ## All buckets -/

theorem filter_append_filter (o : IsOrder le) {l : List α} {k : κ}
    (hl : l.Pairwise fun a b => le (key a) (key b)) (hk : ∀ a ∈ l, le k (key a)) :
    (l.filter fun a => key a = k) ++ (l.filter fun a => key a ≠ k) = l := by
  induction l with
  | nil => rfl
  | cons a rest ih =>
    obtain ⟨ha, hrest⟩ := List.pairwise_cons.mp hl
    by_cases h : key a = k
    · rw [List.filter_cons_of_pos (by simpa using h), List.filter_cons_of_neg (by simpa using h),
        List.cons_append, ih hrest fun b hb => hk b (List.mem_cons_of_mem _ hb)]
    · -- nothing after `a` has the key either, or else `a` would have it
      have hall : ∀ b ∈ a :: rest, key b ≠ k := by
        intro b hb hbk
        rcases List.mem_cons.mp hb with rfl | hb
        · exact h hbk
        · exact h (o.antisymm _ _ (hbk ▸ ha b hb) (hk a (List.mem_cons_self ..)))
      rw [List.filter_eq_nil_iff.mpr fun b hb => by simpa using hall b hb,
        List.filter_eq_self.mpr fun b hb => by simpa using hall b hb, List.nil_append]

theorem eq_flatMap_filter (o : IsOrder le) {ks : List κ}
    (hks : ks.Pairwise fun a b => le a b ∧ a ≠ b) {l : List α}
    (hl : l.Pairwise fun a b => le (key a) (key b)) (hmem : ∀ a ∈ l, key a ∈ ks) :
    l = ks.flatMap fun k => l.filter fun a => key a = k := by
  induction ks generalizing l with
  | nil =>
    cases l with
    | nil => rfl
    | cons a rest => exact absurd (hmem a (List.mem_cons_self ..)) (List.not_mem_nil)
  | cons k ks ih =>
    obtain ⟨hk, hks⟩ := List.pairwise_cons.mp hks
    have hleast : ∀ a ∈ l, le k (key a) := by
      intro a ha
      rcases List.mem_cons.mp (hmem a ha) with h | h
      · exact h ▸ o.refl _
      · exact (hk _ h).1
    have hothers : ∀ a ∈ l.filter (fun a => key a ≠ k), key a ∈ ks := by
      intro a ha
      obtain ⟨ha, hne⟩ := List.mem_filter.mp ha
      exact (List.mem_cons.mp (hmem a ha)).resolve_left (by simpa using hne)
    have hrest := ih hks (hl.filter _) hothers
    conv_lhs => rw [← filter_append_filter key o hl hleast, hrest]
    rw [List.flatMap_cons, List.append_cancel_left_eq]
    refine List.flatMap_congr fun k' hk' => ?_
    rw [List.filter_filter]
    refine List.filter_congr fun a _ => ?_
    by_cases h : key a = k'
    · have hne : k' ≠ k := fun h' => (hk k' hk').2 h'.symm
      simp [h, hne]
    · simp [h]

/-- A stable sort lists the keys in ascending order, and for each key the elements that have it as
they stood before. -/
theorem mergeSort_eq_flatMap (o : IsOrder le) {ks : List κ}
    (hks : ks.Pairwise fun a b => le a b ∧ a ≠ b) {l : List α} (hmem : ∀ a ∈ l, key a ∈ ks) :
    (l.mergeSort fun a b => le (key a) (key b)) =
      ks.flatMap fun k => l.filter fun a => key a = k := by
  have hmem' : ∀ a ∈ l.mergeSort fun a b => le (key a) (key b), key a ∈ ks :=
    fun a ha => hmem a (List.mem_mergeSort.mp ha)
  rw [eq_flatMap_filter key o hks (pairwise_mergeSort key o l) hmem']
  exact List.flatMap_congr fun k _ => filter_mergeSort key o l k

/-- Buckets of different keys, in whatever order, hold all elements with one of the keys. -/
theorem perm_flatMap_filter {ks : List κ} (hks : ks.Nodup) (l : List α) :
    (ks.flatMap fun k => l.filter fun a => key a == k).Perm (l.filter fun a => ks.contains (key a)) := by
  induction ks with
  | nil => simp
  | cons k ks ih =>
    obtain ⟨hk, hks⟩ := List.nodup_cons.mp hks
    have hsplit := List.filter_append_perm (fun a => key a == k)
      (l.filter fun a => (k :: ks).contains (key a))
    have hbucket : (l.filter fun a => (k :: ks).contains (key a)).filter (fun a => key a == k) =
        l.filter fun a => key a == k := by
      rw [List.filter_filter]
      refine List.filter_congr fun a _ => ?_
      by_cases ha : key a = k <;> simp [ha]
    have hothers : (l.filter fun a => (k :: ks).contains (key a)).filter (fun a => !(key a == k)) =
        l.filter fun a => ks.contains (key a) := by
      rw [List.filter_filter]
      refine List.filter_congr fun a _ => ?_
      by_cases ha : key a = k <;> simp [ha, hk]
    rw [hbucket, hothers] at hsplit
    rw [List.flatMap_cons]
    exact ((ih hks).append_left _).trans hsplit

end MarcHarvest.StableSort
