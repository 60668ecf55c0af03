import Mathlib.Data.List.Basic
import Mathlib.Data.List.Induction
import MarcHarvest.OrderedMap

/-!
# What was written to a map

A map in order of insertion is determined by the pairs that were written to it: its keys are those
of the pairs, in the order in which they first came, and the value of a key is the last one
(`IsWritten`). One more pair keeps this, so it holds for every sequence of insertions.
-/

namespace MarcHarvest.OrderedMap

variable {α β : Type} [DecidableEq α]

/-! ## First places -/

theorem pairwise_idxOf_append {keys written : List α} (hkeys : ∀ k ∈ keys, k ∈ written)
    (h : keys.Pairwise fun k l => written.idxOf k < written.idxOf l) (key : α) :
    keys.Pairwise fun k l => (written ++ [key]).idxOf k < (written ++ [key]).idxOf l := by
  refine h.imp_of_mem fun {k l} hk hl hlt => ?_
  rwa [List.idxOf_append_of_mem (hkeys k hk), List.idxOf_append_of_mem (hkeys l hl)]

theorem pairwise_idxOf_append_new {keys written : List α} (hkeys : ∀ k ∈ keys, k ∈ written)
    (h : keys.Pairwise fun k l => written.idxOf k < written.idxOf l) {key : α}
    (hnew : key ∉ written) :
    (keys ++ [key]).Pairwise fun k l =>
      (written ++ [key]).idxOf k < (written ++ [key]).idxOf l := by
  rw [List.pairwise_append]
  refine ⟨pairwise_idxOf_append hkeys h key, List.pairwise_singleton .., fun k hk l hl => ?_⟩
  obtain rfl := List.mem_singleton.mp hl
  have hlt := List.idxOf_lt_length_of_mem (hkeys k hk)
  rw [List.idxOf_append_of_mem (hkeys k hk), List.idxOf_append_of_notMem hnew]
  omega

theorem nodup_of_pairwise_idxOf {keys written : List α}
    (h : keys.Pairwise fun k l => written.idxOf k < written.idxOf l) : keys.Nodup :=
  h.imp fun {_ _} hlt heq => Nat.ne_of_lt hlt (congrArg written.idxOf heq)

theorem eraseDups_append_singleton (l : List α) (a : α) :
    (l ++ [a]).eraseDups = if a ∈ l then l.eraseDups else l.eraseDups ++ [a] := by
  rw [List.eraseDups_append]
  split
  · next ha => simp [List.removeAll, ha]
  · next ha => simp [List.removeAll, ha, List.eraseDups_cons]

theorem pairwise_idxOf_eraseDups (l : List α) :
    l.eraseDups.Pairwise fun a b => l.idxOf a < l.idxOf b := by
  induction l using List.reverseRecOn with
  | nil => exact List.Pairwise.nil
  | append_singleton l a ih =>
    rw [eraseDups_append_singleton]
    split
    · exact pairwise_idxOf_append (fun b => List.mem_eraseDups.mp) ih a
    · next ha => exact pairwise_idxOf_append_new (fun b => List.mem_eraseDups.mp) ih ha

theorem pairwise_keys_insert {m : OrderedMap α β} {written : List α} {key : α}
    (hkeys : ∀ k ∈ m.keys, k ∈ written) (hkey : key ∈ written → key ∈ m.keys)
    (h : m.keys.Pairwise fun k l => written.idxOf k < written.idxOf l) (value : β) :
    (m.insert key value).keys.Pairwise fun k l =>
      (written ++ [key]).idxOf k < (written ++ [key]).idxOf l := by
  rw [keys_insert]
  split
  · exact pairwise_idxOf_append hkeys h key
  · next hnew => exact pairwise_idxOf_append_new hkeys h fun hmem => hnew (hkey hmem)

/-! ## Histories -/

/-- Whether a map holds what was written to it, one pair after the other. -/
structure IsWritten (m : OrderedMap α β) (written : List (α × β)) : Prop where
  /-- The keys are those of the pairs. -/
  mem_keys : ∀ k, k ∈ m.keys ↔ k ∈ written.map Prod.fst
  /-- They stand in the order in which they were first written. -/
  pairwise_keys : m.keys.Pairwise fun k l =>
    (written.map Prod.fst).idxOf k < (written.map Prod.fst).idxOf l
  /-- A key has the value that was last written to it. -/
  get?_eq : ∀ k, m.get? k = (written.filter fun e => e.1 = k).getLast?.map Prod.snd

theorem isWritten_empty : (∅ : OrderedMap α β).IsWritten [] where
  mem_keys _ := Iff.rfl
  pairwise_keys := List.Pairwise.nil
  get?_eq _ := rfl

theorem IsWritten.insert {m : OrderedMap α β} {written : List (α × β)} (h : m.IsWritten written)
    (key : α) (value : β) : (m.insert key value).IsWritten (written ++ [(key, value)]) where
  mem_keys k := by
    rw [mem_keys_insert, h.mem_keys, List.map_append, List.mem_append, List.map_singleton,
      List.mem_singleton]
  pairwise_keys := by
    rw [List.map_append, List.map_singleton]
    exact pairwise_keys_insert (fun k => (h.mem_keys k).mp) (h.mem_keys key).mpr h.pairwise_keys
      value
  get?_eq k := by
    rw [get?_insert, List.filter_append, List.getLast?_append, h.get?_eq]
    by_cases hk : key = k
    · simp [hk]
    · simp [hk]

theorem IsWritten.foldl_insert {m : OrderedMap α β} {written : List (α × β)}
    (h : m.IsWritten written) (l : List (α × β)) :
    (l.foldl (fun m e => m.insert e.1 e.2) m).IsWritten (written ++ l) := by
  induction l generalizing m written with
  | nil => simpa using h
  | cons e l ih =>
    have hnext := ih (h.insert e.1 e.2)
    rwa [List.append_assoc, List.singleton_append] at hnext

theorem isWritten_entries (m : OrderedMap α β) : m.IsWritten m.entries := by
  have h : (ofList m.entries).IsWritten m.entries := isWritten_empty.foldl_insert m.entries
  rwa [ofList_entries] at h

end MarcHarvest.OrderedMap
