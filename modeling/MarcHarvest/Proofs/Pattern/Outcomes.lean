import Mathlib.Data.List.Basic
import MarcHarvest.Pattern.Search

/-!
# What a pattern matches

`outcomes` reads a pattern as a function: the ways to match it from a place, in order of preference.
A repetition without a bound comes to an end because every copy takes a character; for patterns in
which an empty part is repeated so (not `ends`), the outcomes say nothing about the search.

Most repetitions in use are runs of one kind of characters, followed by something that cannot begin
within the run. Then no shorter run counts (`flatMap_outcomes_run`).
-/

namespace MarcHarvest.Pattern

/-! ## Outcomes -/

/-- How far a match has come: its place, and where the first group was opened and what it holds. -/
structure Stage where
  place : Place
  opened : Nat
  group : Option (List Char)

def Stage.left (s : Stage) : Nat := s.place.after.length

def Stage.openGroup (s : Stage) : Stage := { s with opened := s.place.offset }

def Stage.closeGroup (s : Stage) : Stage := { s with group := some (s.place.since s.opened) }

/-- Two lists in the order that a repetition prefers. -/
def prefer (greedy : Bool) (inside outside : List Stage) : List Stage :=
  if greedy then inside ++ outside else outside ++ inside

def takeOne (q : Char → Bool) (s : Stage) : List Stage :=
  match s.place.after with
  | [] => []
  | c :: rest => if q c then [{ s with place := ⟨c :: s.place.before, rest⟩ }] else []

@[simp] theorem takeOne_nil (q : Char → Bool) (before : List Char) (opened : Nat)
    (group : Option (List Char)) : takeOne q ⟨⟨before, []⟩, opened, group⟩ = [] := rfl

@[simp] theorem takeOne_cons (q : Char → Bool) (before : List Char) (c : Char) (rest : List Char)
    (opened : Nat) (group : Option (List Char)) :
    takeOne q ⟨⟨before, c :: rest⟩, opened, group⟩ =
      if q c then [⟨⟨c :: before, rest⟩, opened, group⟩] else [] := rfl

def exactly (part : Stage → List Stage) : (n : Nat) → Stage → List Stage
  | 0, s => [s]
  | n + 1, s => (part s).flatMap (exactly part n)

def upTo (part : Stage → List Stage) (greedy : Bool) : (n : Nat) → Stage → List Stage
  | 0, s => [s]
  | n + 1, s => prefer greedy ((part s).flatMap (upTo part greedy n)) [s]

/-- Any number of copies of a part that takes characters. -/
def anyTimes (part : Stage → List Stage) (greedy : Bool) (s : Stage) : List Stage :=
  upTo part greedy s.left s

/-- The ways to match a pattern, in order of preference. -/
def outcomes : Pattern → Stage → List Stage
  | empty, s => [s]
  | one set, s => takeOne set.contains s
  | assertion a, s => if a.holds s.place.before.head? s.place.after.head? then [s] else []
  | seq a b, s => (a.outcomes s).flatMap b.outcomes
  | alt a b, s => a.outcomes s ++ b.outcomes s
  | group number p, s =>
    if number = some 1 then (p.outcomes s.openGroup).map Stage.closeGroup else p.outcomes s
  | times p least most greedy, s =>
    (exactly p.outcomes least s).flatMap
      (most.elim (anyTimes p.outcomes greedy) fun most => upTo p.outcomes greedy (most - least))

/-- The match of a pattern that begins at a place. -/
def matchAt? (p : Pattern) (place : Place) : Option Match :=
  (p.outcomes ⟨place, 0, none⟩).head?.map fun s =>
    ⟨place.before.reverse, s.group, s.place.after⟩

/-- Whether every repetition without a bound is of a part that takes a character. -/
def ends : Pattern → Bool
  | empty => true
  | one _ => true
  | assertion _ => true
  | seq a b => a.ends && b.ends
  | alt a b => a.ends && b.ends
  | group _ p => p.ends
  | times p _ most _ => p.ends && (most.isSome || !p.canBeEmpty)

/-! ## Taking characters -/

section Left

variable {part : Stage → List Stage} {greedy : Bool} {n k : Nat} {s u : Stage}

theorem mem_prefer {inside outside : List Stage} :
    u ∈ prefer greedy inside outside ↔ u ∈ inside ∨ u ∈ outside := by
  cases greedy <;> simp [prefer, or_comm]

theorem left_exactly_le (h : ∀ s, ∀ u ∈ part s, u.left ≤ s.left) (hu : u ∈ exactly part n s) :
    u.left ≤ s.left := by
  induction n generalizing s with
  | zero =>
    obtain rfl := List.mem_singleton.mp hu
    exact Nat.le_refl _
  | succ n ih =>
    obtain ⟨v, hv, hu⟩ := List.mem_flatMap.mp hu
    exact Nat.le_trans (ih hu) (h s v hv)

theorem left_exactly_lt (h : ∀ s, ∀ u ∈ part s, u.left < s.left) (hn : 0 < n)
    (hu : u ∈ exactly part n s) : u.left < s.left := by
  obtain ⟨n, rfl⟩ : ∃ k, n = k + 1 := ⟨n - 1, by omega⟩
  obtain ⟨v, hv, hu⟩ := List.mem_flatMap.mp hu
  have hle := left_exactly_le (fun s u hu => Nat.le_of_lt (h s u hu)) hu
  have hlt := h s v hv
  omega

theorem left_upTo_le (h : ∀ s, ∀ u ∈ part s, u.left ≤ s.left) (hu : u ∈ upTo part greedy n s) :
    u.left ≤ s.left := by
  induction n generalizing s with
  | zero =>
    obtain rfl := List.mem_singleton.mp hu
    exact Nat.le_refl _
  | succ n ih =>
    rcases mem_prefer.mp hu with hu | hu
    · obtain ⟨v, hv, hu⟩ := List.mem_flatMap.mp hu
      exact Nat.le_trans (ih hu) (h s v hv)
    · obtain rfl := List.mem_singleton.mp hu
      exact Nat.le_refl _

theorem left_takeOne {q : Char → Bool} (hu : u ∈ takeOne q s) : u.left < s.left := by
  obtain ⟨⟨before, after⟩, opened, group⟩ := s
  cases after with
  | nil => simp at hu
  | cons c rest =>
    rw [takeOne_cons] at hu
    split at hu
    · obtain rfl := List.mem_singleton.mp hu
      simp [Stage.left]
    · cases hu

/-- No way to match a pattern goes back, and none stays in place unless the pattern can be empty. -/
theorem left_outcomes (p : Pattern) : ∀ s, ∀ u ∈ p.outcomes s,
    u.left ≤ s.left ∧ (p.canBeEmpty = false → u.left < s.left) := by
  induction p with
  | empty =>
    intro s u hu
    obtain rfl := List.mem_singleton.mp hu
    exact ⟨Nat.le_refl _, fun h => by simp [canBeEmpty] at h⟩
  | one set => exact fun s u hu => ⟨Nat.le_of_lt (left_takeOne hu), fun _ => left_takeOne hu⟩
  | assertion a =>
    intro s u hu
    dsimp only [outcomes] at hu
    split at hu
    · obtain rfl := List.mem_singleton.mp hu
      exact ⟨Nat.le_refl _, fun h => by simp [canBeEmpty] at h⟩
    · cases hu
  | seq a b iha ihb =>
    intro s u hu
    obtain ⟨v, hv, hu⟩ := List.mem_flatMap.mp hu
    obtain ⟨hle, hlt⟩ := iha s v hv
    obtain ⟨hle', hlt'⟩ := ihb v u hu
    refine ⟨Nat.le_trans hle' hle, fun h => ?_⟩
    rcases Bool.and_eq_false_iff.mp h with ha | hb
    · exact Nat.lt_of_le_of_lt hle' (hlt ha)
    · exact Nat.lt_of_lt_of_le (hlt' hb) hle
  | alt a b iha ihb =>
    intro s u hu
    rw [canBeEmpty, Bool.or_eq_false_iff]
    rcases List.mem_append.mp hu with hu | hu
    · exact ⟨(iha s u hu).1, fun h => (iha s u hu).2 h.1⟩
    · exact ⟨(ihb s u hu).1, fun h => (ihb s u hu).2 h.2⟩
  | group number p ih =>
    intro s u hu
    dsimp only [outcomes] at hu
    split at hu
    · obtain ⟨v, hv, rfl⟩ := List.mem_map.mp hu
      have hleft := ih _ v hv
      exact hleft
    · exact ih s u hu
  | times p least most greedy ih =>
    intro s u hu
    obtain ⟨v, hv, hu⟩ := List.mem_flatMap.mp hu
    have hpart : ∀ s, ∀ u ∈ p.outcomes s, u.left ≤ s.left := fun s u hu => (ih s u hu).1
    have hle : u.left ≤ v.left := by
      cases most with
      | none => exact left_upTo_le hpart hu
      | some most => exact left_upTo_le hpart hu
    refine ⟨Nat.le_trans hle (left_exactly_le hpart hv), fun h => Nat.lt_of_le_of_lt hle ?_⟩
    obtain ⟨hleast, hp⟩ := Bool.or_eq_false_iff.mp h
    have hpos : 0 < least := Nat.pos_of_ne_zero (by simpa using hleast)
    exact left_exactly_lt (fun s u hu => (ih s u hu).2 hp) hpos hv

/-- More copies than there are characters left make no difference. -/
theorem upTo_congr (h : ∀ s, ∀ u ∈ part s, u.left < s.left) (hn : s.left ≤ n) (hk : s.left ≤ k) :
    upTo part greedy n s = upTo part greedy k s := by
  have hnone : ∀ s : Stage, s.left = 0 → part s = [] := by
    intro s hs
    refine List.eq_nil_iff_forall_not_mem.mpr fun u hu => ?_
    have hlt := h s u hu
    omega
  induction n generalizing k s with
  | zero =>
    cases k with
    | zero => rfl
    | succ k =>
      rw [upTo, upTo, hnone s (by omega)]
      cases greedy <;> rfl
  | succ n ih =>
    cases k with
    | zero =>
      rw [upTo, upTo, hnone s (by omega)]
      cases greedy <;> rfl
    | succ k =>
      have hcopies : (part s).flatMap (upTo part greedy n) =
          (part s).flatMap (upTo part greedy k) := by
        refine List.flatMap_congr fun u hu => ?_
        have hlt := h s u hu
        exact ih (by omega) (by omega)
      rw [upTo, upTo, hcopies]

theorem anyTimes_eq (h : ∀ s, ∀ u ∈ part s, u.left < s.left) (s : Stage) :
    anyTimes part greedy s = prefer greedy ((part s).flatMap (anyTimes part greedy)) [s] := by
  have hcopies : (part s).flatMap (upTo part greedy s.left) =
      (part s).flatMap (anyTimes part greedy) :=
    List.flatMap_congr fun u hu => upTo_congr h (Nat.le_of_lt (h s u hu)) (Nat.le_refl _)
  calc anyTimes part greedy s
      = upTo part greedy (s.left + 1) s := upTo_congr h (Nat.le_refl _) (Nat.le_succ _)
    _ = prefer greedy ((part s).flatMap (upTo part greedy s.left)) [s] := rfl
    _ = prefer greedy ((part s).flatMap (anyTimes part greedy)) [s] := by rw [hcopies]

theorem exactly_succ (part : Stage → List Stage) (n : Nat) (s : Stage) :
    exactly part (n + 1) s = (exactly part n s).flatMap part := by
  induction n generalizing s with
  | zero => simp [exactly]
  | succ n ih =>
    rw [exactly, exactly, List.flatMap_assoc]
    exact List.flatMap_congr fun u _ => ih u

end Left

/-! ## Parts of patterns -/

theorem outcomes_one {set : CharSet} {q : Char → Bool} (h : ∀ c, set.contains c = q c) :
    (one set).outcomes = takeOne q := by
  funext s
  rw [outcomes, funext h]

theorem outcomes_textEnd (before after : List Char) (opened : Nat) (group : Option (List Char)) :
    (assertion .textEnd).outcomes ⟨⟨before, after⟩, opened, group⟩ =
      if after = [] then [⟨⟨before, after⟩, opened, group⟩] else [] := by
  cases after with
  | nil => simp [outcomes, Assertion.holds]
  | cons c rest => simp [outcomes, Assertion.holds]

theorem outcomes_optional (p : Pattern) (s : Stage) :
    (times p 0 (some 1) true).outcomes s = p.outcomes s ++ [s] := by
  simp [outcomes, exactly, upTo, prefer]

theorem outcomes_group_none (p : Pattern) : (group none p).outcomes = p.outcomes := by
  funext s
  simp [outcomes]

theorem flatMap_outcomes_group (p : Pattern) (s : Stage) (k : Stage → List Stage) :
    ((group (some 1) p).outcomes s).flatMap k =
      (p.outcomes s.openGroup).flatMap fun u => k u.closeGroup := by
  rw [outcomes, if_pos rfl, List.flatMap_map]

theorem since_reverse_append (l before after : List Char) :
    (⟨l.reverse ++ before, after⟩ : Place).since before.length = l := by
  have hcount : (l.reverse ++ before).length - before.length = l.reverse.length := by
    rw [List.length_append]
    omega
  rw [Place.since, Place.offset, hcount, List.take_left', List.reverse_reverse]
  rfl

/-- A group holds what has been passed since it was opened. -/
theorem closeGroup_reverse_append (l before after : List Char) (group : Option (List Char)) :
    Stage.closeGroup ⟨⟨l.reverse ++ before, after⟩, before.length, group⟩ =
      ⟨⟨l.reverse ++ before, after⟩, before.length, some l⟩ :=
  congrArg (fun g => (⟨⟨l.reverse ++ before, after⟩, before.length, some g⟩ : Stage))
    (since_reverse_append l before after)

/-! ## Runs -/

section Run

variable {q : Char → Bool} {k : Stage → List Stage} {before after : List Char} {opened : Nat}
  {group : Option (List Char)}

theorem flatMap_anyTimes_run
    (hk : ∀ c before rest, q c = true → k ⟨⟨before, c :: rest⟩, opened, group⟩ = []) :
    (anyTimes (takeOne q) true ⟨⟨before, after⟩, opened, group⟩).flatMap k =
      k ⟨⟨(after.takeWhile q).reverse ++ before, after.dropWhile q⟩, opened, group⟩ := by
  induction after generalizing before with
  | nil => simp [anyTimes, Stage.left, upTo]
  | cons c rest ih =>
    rw [anyTimes_eq fun s u hu => left_takeOne hu]
    cases hc : q c with
    | false => simp [prefer, hc]
    | true => simp [prefer, hc, ih, hk]

theorem exactly_takeOne (q : Char → Bool) (n : Nat) (before after : List Char) :
    exactly (takeOne q) n ⟨⟨before, after⟩, opened, group⟩ =
      if n ≤ after.length ∧ (after.take n).all q then
        [⟨⟨(after.take n).reverse ++ before, after.drop n⟩, opened, group⟩]
      else [] := by
  induction n generalizing before after with
  | zero => simp [exactly]
  | succ n ih =>
    cases after with
    | nil => simp [exactly]
    | cons c rest =>
      cases hc : q c with
      | false => simp [exactly, hc]
      | true => simp [exactly, hc, ih]

/-- Where nothing goes on within a run of characters, only the whole run counts. -/
theorem flatMap_outcomes_run {p : Pattern} {n : Nat} (hp : p.outcomes = takeOne q)
    (hk : ∀ c before rest, q c = true → k ⟨⟨before, c :: rest⟩, opened, group⟩ = []) :
    ((times p n none true).outcomes ⟨⟨before, after⟩, opened, group⟩).flatMap k =
      if n ≤ (after.takeWhile q).length then
        k ⟨⟨(after.takeWhile q).reverse ++ before, after.dropWhile q⟩, opened, group⟩
      else [] := by
  rw [outcomes, hp, Option.elim, List.flatMap_assoc]
  induction n generalizing before after with
  | zero => simp [exactly, flatMap_anyTimes_run hk]
  | succ n ih =>
    cases after with
    | nil => simp [exactly]
    | cons c rest =>
      cases hc : q c with
      | false => simp [exactly, hc]
      | true => simpa [exactly, hc] using ih

end Run

end MarcHarvest.Pattern
