/-!
# Maps in order of insertion

A map that lists its keys in the order in which they first came. Writing to a key that is there
already changes its value and keeps its place.
-/

namespace MarcHarvest

/-- Entries in order of insertion, no key twice. -/
structure OrderedMap (α β : Type) where
  entries : List (α × β)
  nodup_keys : (entries.map Prod.fst).Nodup

namespace OrderedMap

variable {α β : Type}

instance [Repr α] [Repr β] : Repr (OrderedMap α β) := ⟨fun m n => reprPrec m.entries n⟩

@[ext] theorem ext {m n : OrderedMap α β} (h : m.entries = n.entries) : m = n := by
  cases m; cases n; simp_all

def empty : OrderedMap α β := ⟨[], by simp⟩

instance : EmptyCollection (OrderedMap α β) := ⟨empty⟩
instance : Inhabited (OrderedMap α β) := ⟨empty⟩

@[simp] theorem entries_empty : (∅ : OrderedMap α β).entries = [] := rfl

/-- The keys, first inserted first. -/
def keys (m : OrderedMap α β) : List α := m.entries.map Prod.fst

def size (m : OrderedMap α β) : Nat := m.entries.length

variable [DecidableEq α]

instance [DecidableEq β] : DecidableEq (OrderedMap α β) := fun m n =>
  decidable_of_iff (m.entries = n.entries) ⟨ext, fun h => h ▸ rfl⟩

/-- Writes `v` to the first entry of key `k`, or to a new entry at the end. -/
def insertEntry (k : α) (v : β) : List (α × β) → List (α × β)
  | [] => [(k, v)]
  | e :: rest => if e.1 = k then (k, v) :: rest else e :: insertEntry k v rest

theorem map_fst_insertEntry (k : α) (v : β) (l : List (α × β)) :
    (insertEntry k v l).map Prod.fst =
      if k ∈ l.map Prod.fst then l.map Prod.fst else l.map Prod.fst ++ [k] := by
  induction l with
  | nil => simp [insertEntry]
  | cons e rest ih =>
    by_cases h : e.1 = k
    · simp [insertEntry, h]
    · have h' : k ≠ e.1 := fun h'' => h h''.symm
      simp only [insertEntry, h, if_false, List.map_cons, ih, List.mem_cons, h', false_or]
      split <;> simp

theorem nodup_insertEntry (k : α) (v : β) {l : List (α × β)} (h : (l.map Prod.fst).Nodup) :
    ((insertEntry k v l).map Prod.fst).Nodup := by
  rw [map_fst_insertEntry]
  split
  · exact h
  · next hk =>
    rw [List.nodup_append]
    refine ⟨h, by simp, ?_⟩
    intro a ha b hb hab
    simp only [List.mem_singleton] at hb
    exact hk (hb ▸ hab ▸ ha)

/-- Sets the value of a key, at its old place or at the end. -/
def insert (m : OrderedMap α β) (k : α) (v : β) : OrderedMap α β :=
  ⟨insertEntry k v m.entries, nodup_insertEntry k v m.nodup_keys⟩

def get? (m : OrderedMap α β) (k : α) : Option β :=
  (m.entries.find? fun e => e.1 = k).map Prod.snd

/-- Inserts pairs one after the other: the last value of a key wins, its first place stays. -/
def ofList (l : List (α × β)) : OrderedMap α β :=
  l.foldl (fun m e => m.insert e.1 e.2) empty

@[simp] theorem get?_empty (k : α) : (∅ : OrderedMap α β).get? k = none := rfl

theorem keys_insert (m : OrderedMap α β) (k : α) (v : β) :
    (m.insert k v).keys = if k ∈ m.keys then m.keys else m.keys ++ [k] :=
  map_fst_insertEntry k v m.entries

theorem mem_keys_insert {m : OrderedMap α β} {k k' : α} {v : β} :
    k' ∈ (m.insert k v).keys ↔ k' ∈ m.keys ∨ k' = k := by
  rw [keys_insert]
  split
  · next h => exact ⟨Or.inl, fun hk' => hk'.elim id fun hk' => hk' ▸ h⟩
  · rw [List.mem_append, List.mem_singleton]

theorem insertEntry_of_not_mem {k : α} {l : List (α × β)} (h : k ∉ l.map Prod.fst) (v : β) :
    insertEntry k v l = l ++ [(k, v)] := by
  induction l with
  | nil => rfl
  | cons e rest ih =>
    rw [List.map_cons, List.mem_cons, not_or] at h
    rw [insertEntry, if_neg (Ne.symm h.1), ih h.2, List.cons_append]

theorem entries_foldl_insert (l : List (α × β)) (m : OrderedMap α β)
    (h : ((m.entries ++ l).map Prod.fst).Nodup) :
    (l.foldl (fun m e => m.insert e.1 e.2) m).entries = m.entries ++ l := by
  induction l generalizing m with
  | nil => simp
  | cons e l ih =>
    have hfresh : e.1 ∉ m.entries.map Prod.fst := by
      rw [List.map_append, List.nodup_append] at h
      exact fun he => h.2.2 e.1 he e.1 List.mem_cons_self rfl
    have hinsert : (m.insert e.1 e.2).entries = m.entries ++ [e] :=
      insertEntry_of_not_mem hfresh e.2
    rw [List.foldl_cons, ih, hinsert, List.append_assoc, List.singleton_append]
    rwa [hinsert, List.append_assoc, List.singleton_append]

/-- A map is built again from its entries. -/
theorem ofList_entries (m : OrderedMap α β) : ofList m.entries = m :=
  ext (entries_foldl_insert m.entries ∅ m.nodup_keys)

theorem find?_insertEntry (k k' : α) (v : β) (l : List (α × β)) :
    ((insertEntry k v l).find? fun e => e.1 = k').map Prod.snd =
      if k = k' then some v else (l.find? fun e => e.1 = k').map Prod.snd := by
  induction l with
  | nil => by_cases h : k = k' <;> simp [insertEntry, h]
  | cons e rest ih =>
    by_cases he : e.1 = k
    · by_cases h : k = k' <;> simp [insertEntry, he, h]
    · by_cases h' : e.1 = k'
      · have h : k ≠ k' := fun h => he (h'.trans h.symm)
        rw [insertEntry, if_neg he, if_neg h, List.find?_cons_of_pos (by simp [h']),
          List.find?_cons_of_pos (by simp [h'])]
      · simpa [insertEntry, he, h'] using ih

theorem get?_insert (m : OrderedMap α β) (k k' : α) (v : β) :
    (m.insert k v).get? k' = if k = k' then some v else m.get? k' :=
  find?_insertEntry k k' v m.entries

/-- Whether two maps hold the same entries, in whatever order. -/
def sameEntries [DecidableEq β] (m n : OrderedMap α β) : Bool :=
  m.size == n.size && m.entries.all fun e => n.get? e.1 == some e.2

end OrderedMap

end MarcHarvest
