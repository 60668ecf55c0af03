import Mathlib.Data.List.Forall2
import MarcHarvest.Error

/-!
# Computations that can fail

What the result of a sequence of steps says about the steps, for results that are values or errors.
-/

namespace MarcHarvest

section Bind

variable {α β ε : Type}

theorem ok_bind (a : α) (f : α → Except ε β) : (.ok a >>= f) = f a := rfl

theorem exists_of_bind_eq_ok {x : Except ε α} {f : α → Except ε β} {b : β}
    (h : x >>= f = .ok b) : ∃ a, x = .ok a ∧ f a = .ok b := by
  cases x with
  | error e => cases h
  | ok a => exact ⟨a, rfl, h⟩

theorem exists_of_map_eq_ok {x : Except ε α} {f : α → β} {b : β} (h : x.map f = .ok b) :
    ∃ a, x = .ok a ∧ f a = b := by
  cases x with
  | error e => cases h
  | ok a => exact ⟨a, rfl, Except.ok.inj h⟩

end Bind

section Fold

variable {σ α ε : Type} {f : σ → α → Except ε σ} {l : List α}

theorem foldlM_eq_ok {g : σ → α → σ} (h : ∀ s, ∀ a ∈ l, f s a = .ok (g s a)) (s : σ) :
    l.foldlM f s = .ok (l.foldl g s) := by
  induction l generalizing s with
  | nil => rfl
  | cons a l ih =>
    rw [List.foldlM_cons, h s a List.mem_cons_self, List.foldl_cons]
    exact ih (fun s b hb => h s b (List.mem_cons_of_mem a hb)) (g s a)

theorem foldlM_eq_error {a : α} (ha : a ∈ l) (h : ∀ s, ∃ e, f s a = .error e) (s : σ) :
    ∃ e, l.foldlM f s = .error e := by
  induction l generalizing s with
  | nil => cases ha
  | cons b l ih =>
    rw [List.foldlM_cons]
    cases hb : f s b with
    | error e => exact ⟨e, rfl⟩
    | ok s' =>
      rcases List.mem_cons.mp ha with rfl | ha
      · obtain ⟨e, he⟩ := h s
        rw [hb] at he
        cases he
      · exact ih ha s'

theorem foldlM_preserves {P : σ → Prop} (h : ∀ s a s', P s → f s a = .ok s' → P s') {s t : σ}
    (hs : P s) (ht : l.foldlM f s = .ok t) : P t := by
  induction l generalizing s with
  | nil =>
    cases ht
    exact hs
  | cons a l ih =>
    rw [List.foldlM_cons] at ht
    obtain ⟨s', ha, ht⟩ := exists_of_bind_eq_ok ht
    exact ih (h s a s' hs ha) ht

/-- An invariant over what the items read so far contributed. -/
theorem foldlM_accumulates {β : Type} {P : List β → σ → Prop} {g : α → List β}
    (h : ∀ bs s a s', P bs s → f s a = .ok s' → P (bs ++ g a) s') {bs : List β} {s t : σ}
    (hs : P bs s) (ht : l.foldlM f s = .ok t) : P (bs ++ l.flatMap g) t := by
  induction l generalizing bs s with
  | nil =>
    cases ht
    rw [List.flatMap_nil, List.append_nil]
    exact hs
  | cons a l ih =>
    rw [List.foldlM_cons] at ht
    obtain ⟨s', ha, ht⟩ := exists_of_bind_eq_ok ht
    rw [List.flatMap_cons, ← List.append_assoc]
    exact ih (h bs s a s' hs ha) ht

end Fold

section Decides

variable {σ α β ε : Type}

/-- When a computation succeeds, and which errors it gives otherwise. -/
structure Decides (x : Except ε α) (Good : Prop) (Fault : ε → Prop) : Prop where
  ok : (∃ a, x = .ok a) ↔ Good
  error : ∀ e, x = .error e ↔ Fault e

namespace Decides

variable {x : Except ε α} {P P' : Prop} {Q Q' : ε → Prop}

theorem not_fault (h : Decides x P Q) (hP : P) (e : ε) : ¬ Q e := by
  intro hQ
  obtain ⟨a, ha⟩ := h.ok.mpr hP
  rw [(h.error e).mpr hQ] at ha
  cases ha

theorem of_ok {a : α} (hP : P) (hQ : ∀ e, ¬ Q e) : Decides (.ok a : Except ε α) P Q where
  ok := ⟨fun _ => hP, fun _ => ⟨a, rfl⟩⟩
  error e := ⟨fun h => (by cases h), fun h => absurd h (hQ e)⟩

theorem of_error {e : ε} (hP : ¬ P) (hQ : ∀ e', Q e' ↔ e' = e) :
    Decides (.error e : Except ε α) P Q where
  ok := ⟨fun ⟨_, h⟩ => (by cases h), fun h => absurd h hP⟩
  error e' := by
    rw [hQ]
    exact ⟨fun h => (Except.error.inj h).symm, fun h => h ▸ rfl⟩

theorem congr (h : Decides x P Q) (hP : P ↔ P') (hQ : ∀ e, Q e ↔ Q' e) : Decides x P' Q' where
  ok := h.ok.trans hP
  error e := (h.error e).trans (hQ e)

theorem bind {f : α → Except ε β} (hx : Decides x P Q) (hf : ∀ a, Decides (f a) P' Q') :
    Decides (x >>= f) (P ∧ P') fun e => Q e ∨ P ∧ Q' e := by
  cases x with
  | error e =>
    have hP : ¬ P := fun hP => by
      obtain ⟨a, ha⟩ := hx.ok.mpr hP
      cases ha
    refine of_error (fun h => hP h.1) fun e' => ?_
    rw [← hx.error e']
    constructor
    · rintro (h | h)
      · exact (Except.error.inj h).symm
      · exact absurd h.1 hP
    · rintro rfl
      exact Or.inl rfl
  | ok a =>
    have hP : P := hx.ok.mp ⟨a, rfl⟩
    refine (hf a).congr ⟨fun h => ⟨hP, h⟩, And.right⟩ fun e => ?_
    constructor
    · exact fun h => Or.inr ⟨hP, h⟩
    · rintro (h | h)
      · exact absurd h (hx.not_fault hP e)
      · exact h.2

theorem map (hx : Decides x P Q) (f : α → β) : Decides (x.map f) P Q := by
  have hmap : x.map f = x >>= fun a => .ok (f a) := by cases x <;> rfl
  have hok : ∀ a, Decides (.ok (f a) : Except ε β) True fun _ => False := fun a =>
    of_ok trivial fun _ => id
  rw [hmap]
  exact (hx.bind hok).congr (and_iff_left trivial) fun e => by simp

end Decides

/-- The fault of the first item that is not good. -/
def FirstFault (Good : α → Prop) (Fault : α → ε → Prop) (l : List α) (e : ε) : Prop :=
  ∃ before a after, l = before ++ a :: after ∧ (∀ b ∈ before, Good b) ∧ Fault a e

variable {Good : α → Prop} {Fault : α → ε → Prop}

theorem not_firstFault_nil (e : ε) : ¬ FirstFault Good Fault [] e := by
  rintro ⟨before, a, after, h, -⟩
  cases before <;> cases h

theorem firstFault_cons {a : α} {l : List α} {e : ε} :
    FirstFault Good Fault (a :: l) e ↔ Fault a e ∨ Good a ∧ FirstFault Good Fault l e := by
  constructor
  · rintro ⟨before, b, after, hl, hbefore, hb⟩
    cases before with
    | nil =>
      obtain ⟨rfl, rfl⟩ := List.cons.inj hl
      exact Or.inl hb
    | cons c before =>
      obtain ⟨rfl, rfl⟩ := List.cons.inj hl
      exact Or.inr ⟨hbefore _ List.mem_cons_self, before, b, after, rfl,
        fun d hd => hbefore d (List.mem_cons_of_mem _ hd), hb⟩
  · rintro (ha | ⟨ha, before, b, after, rfl, hbefore, hb⟩)
    · exact ⟨[], a, l, rfl, fun _ h => absurd h List.not_mem_nil, ha⟩
    · exact ⟨a :: before, b, after, rfl, List.forall_mem_cons.mpr ⟨ha, hbefore⟩, hb⟩

/-- A fold succeeds if all items are good, whatever the state, and otherwise stops at the first that
is not. -/
theorem Decides.foldlM {f : σ → α → Except ε σ} (h : ∀ s a, Decides (f s a) (Good a) (Fault a))
    (l : List α) (s : σ) :
    Decides (l.foldlM f s) (∀ a ∈ l, Good a) (FirstFault Good Fault l) := by
  induction l generalizing s with
  | nil => exact of_ok (fun _ h => absurd h List.not_mem_nil) not_firstFault_nil
  | cons a l ih =>
    rw [List.foldlM_cons]
    exact ((h s a).bind ih).congr List.forall_mem_cons.symm fun e => firstFault_cons.symm

theorem Decides.mapM {f : α → Except ε β} (h : ∀ a, Decides (f a) (Good a) (Fault a))
    (l : List α) : Decides (l.mapM f) (∀ a ∈ l, Good a) (FirstFault Good Fault l) := by
  induction l with
  | nil => exact of_ok (fun _ h => absurd h List.not_mem_nil) not_firstFault_nil
  | cons a l ih =>
    rw [List.mapM_cons]
    have hrest : ∀ b, Decides (do let bs ← l.mapM f; return b :: bs) (∀ a ∈ l, Good a)
        (FirstFault Good Fault l) := fun b => ih.map (b :: ·)
    exact ((h a).bind hrest).congr List.forall_mem_cons.symm fun e => firstFault_cons.symm

theorem forall₂_of_mapM_eq_ok {f : α → Except ε β} {l : List α} {bs : List β}
    (h : l.mapM f = .ok bs) : List.Forall₂ (fun a b => f a = .ok b) l bs := by
  induction l generalizing bs with
  | nil =>
    cases h
    exact .nil
  | cons a l ih =>
    rw [List.mapM_cons] at h
    obtain ⟨b, hb, h⟩ := exists_of_bind_eq_ok h
    obtain ⟨bs, hbs, h⟩ := exists_of_bind_eq_ok h
    cases h
    exact .cons hb (ih hbs)

theorem exists_of_mem_mapM {f : α → Except ε β} {l : List α} {bs : List β}
    (h : l.mapM f = .ok bs) {b : β} (hb : b ∈ bs) : ∃ a ∈ l, f a = .ok b := by
  have hall := forall₂_of_mapM_eq_ok h
  clear h
  induction hall with
  | nil => cases hb
  | @cons a _ l _ ha _ ih =>
    rcases List.mem_cons.mp hb with rfl | hb
    · exact ⟨a, List.mem_cons_self, ha⟩
    · obtain ⟨a', ha', hb⟩ := ih hb
      exact ⟨a', List.mem_cons_of_mem a ha', hb⟩

end Decides

end MarcHarvest
