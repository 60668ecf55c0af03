import Mathlib.Data.Finset.Prod
import Mathlib.Order.Interval.Finset.Nat
import MarcHarvest.Pattern.Search

/-!
# Searching is backtracking

A search never follows two threads through the same step at the same place. Plain backtracking takes
up every thread: it gives the first match in order of preference (`Backtracks`), but may take long,
or for ever. Where backtracking comes to an end, the search ends with the same result
(`searchFrom?_eq_findSome?`).

The threads that the search passes over are of two kinds. One has been followed before without a
match, and it would fail again, since success depends on step and place alone. Or it is still being
followed. But then it would come back to itself: backtracking from it takes more steps than are left
(`Passes`). So the induction is on the number of steps that backtracking takes.
-/

namespace MarcHarvest.Pattern

/-! ## Backtracking -/

/-- Following threads in order without remembering where they have been: the number of threads that
are taken up, and the first match. -/
inductive Backtracks (program : Array Step) : List Thread → Nat → Option Match → Prop
  | nil : Backtracks program [] 0 none
  | accept {t : Thread} {todo : List Thread} (h : program[t.step]? = none) :
      Backtracks program (t :: todo) 1 (some t.toMatch)
  | step {t : Thread} {s : Step} {todo : List Thread} {n : Nat} {r : Option Match}
      (h : program[t.step]? = some s) (hnext : Backtracks program (t.next s ++ todo) n r) :
      Backtracks program (t :: todo) (n + 1) r

variable {program : Array Step} {t u : Thread} {todo more : List Thread} {n k : Nat}
  {r r' : Option Match}

namespace Backtracks

theorem unique (h : Backtracks program todo n r) (h' : Backtracks program todo k r') :
    n = k ∧ r = r' := by
  induction h generalizing k r' with
  | nil =>
    cases h'
    exact ⟨rfl, rfl⟩
  | accept hend =>
    cases h' with
    | accept => exact ⟨rfl, rfl⟩
    | step hs => simp [hend] at hs
  | step hs _ ih =>
    cases h' with
    | accept hend => simp [hend] at hs
    | step hs' hnext =>
      rw [hs] at hs'
      obtain rfl := Option.some.inj hs'
      obtain ⟨rfl, rfl⟩ := ih hnext
      exact ⟨rfl, rfl⟩

theorem append_none (h : Backtracks program todo n none) (h' : Backtracks program more k r) :
    Backtracks program (todo ++ more) (n + k) r := by
  generalize hr : (none : Option Match) = r₀ at h
  induction h with
  | nil => simpa using h'
  | accept => cases hr
  | step hs _ ih =>
    have hrest := ih hr
    rw [List.append_assoc] at hrest
    rw [List.cons_append, Nat.add_right_comm]
    exact .step hs hrest

theorem append_some {m : Match} (h : Backtracks program todo n (some m)) (more : List Thread) :
    Backtracks program (todo ++ more) n (some m) := by
  generalize hr : some m = r₀ at h
  induction h with
  | nil => cases hr
  | accept hend =>
    obtain rfl := Option.some.inj hr
    exact .accept hend
  | step hs _ ih =>
    have hrest := ih hr
    rw [List.append_assoc] at hrest
    exact .step hs hrest

theorem split (h : Backtracks program (todo ++ more) n r) :
    (∃ k l, n = k + l ∧ Backtracks program todo k none ∧ Backtracks program more l r) ∨
      (r ≠ none ∧ Backtracks program todo n r) := by
  generalize hall : todo ++ more = all at h
  induction h generalizing todo with
  | nil =>
    obtain ⟨rfl, rfl⟩ := List.append_eq_nil_iff.mp hall
    exact .inl ⟨0, 0, rfl, .nil, .nil⟩
  | @accept t rest hend =>
    cases todo with
    | nil =>
      subst hall
      exact .inl ⟨0, 1, rfl, .nil, .accept hend⟩
    | cons u todo =>
      obtain ⟨rfl, -⟩ := List.cons.inj hall
      exact .inr ⟨Option.some_ne_none _, .accept hend⟩
  | @step t s rest n r hs hnext ih =>
    cases todo with
    | nil =>
      subst hall
      exact .inl ⟨0, n + 1, by omega, .nil, .step hs hnext⟩
    | cons u todo =>
      obtain ⟨rfl, rfl⟩ := List.cons.inj hall
      rcases ih (List.append_assoc (u.next s) todo more) with
        ⟨k, l, hn, hfail, hrest⟩ | ⟨hr, hfirst⟩
      · exact .inl ⟨k + 1, l, by omega, .step hs hfail, hrest⟩
      · exact .inr ⟨hr, .step hs hfirst⟩

end Backtracks

/-! ## Threads at the same step and place -/

def Thread.Meets (t u : Thread) : Prop := t.step = u.step ∧ t.place = u.place

theorem Thread.Meets.next (h : t.Meets u) (s : Step) :
    List.Forall₂ Thread.Meets (t.next s) (u.next s) := by
  obtain ⟨step, place, start, opened, group⟩ := t
  obtain ⟨step', place', start', opened', group'⟩ := u
  obtain ⟨hstep, hplace⟩ := h
  dsimp only at hstep hplace
  subst hstep hplace
  obtain ⟨before, after⟩ := place
  have hone : ∀ v w : Thread, v.Meets w → List.Forall₂ Thread.Meets [v] [w] :=
    fun v w hvw => .cons hvw .nil
  cases s with
  | accept set =>
    cases after with
    | nil => exact .nil
    | cons c rest =>
      dsimp only [Thread.next]
      split
      · exact hone _ _ ⟨rfl, rfl⟩
      · exact .nil
  | check a =>
    dsimp only [Thread.next]
    split
    · exact hone _ _ ⟨rfl, rfl⟩
    · exact .nil
  | openGroup => exact hone _ _ ⟨rfl, rfl⟩
  | closeGroup => exact hone _ _ ⟨rfl, rfl⟩
  | fork first second => exact .cons ⟨rfl, rfl⟩ (hone _ _ ⟨rfl, rfl⟩)
  | jump target => exact hone _ _ ⟨rfl, rfl⟩

/-- Whether there is a match, and how long it takes to find it, depends on steps and places. -/
theorem Backtracks.of_meets (h : Backtracks program todo n r)
    (hmeet : List.Forall₂ Thread.Meets todo more) :
    ∃ r', Backtracks program more n r' ∧ (r' = none ↔ r = none) := by
  induction h generalizing more with
  | nil =>
    cases hmeet
    exact ⟨none, .nil, Iff.rfl⟩
  | accept hend =>
    cases hmeet with
    | cons htu _ => exact ⟨_, .accept (htu.1 ▸ hend), by simp⟩
  | @step t s rest n r hs _ ih =>
    cases hmeet with
    | cons htu hrest =>
      obtain ⟨r', hnext, hr⟩ := ih (List.rel_append (htu.next s) hrest)
      exact ⟨r', .step (htu.1 ▸ hs) hnext, hr⟩

/-! ## The search -/

/-- Whether a thread is at a place of a text. -/
def Thread.IsIn (text : List Char) (t : Thread) : Prop :=
  t.place.before.reverse ++ t.place.after = text

variable {text : List Char} {visited : Std.HashSet (Nat × Nat)}

theorem Thread.IsIn.offset_le (h : t.IsIn text) : t.place.offset ≤ text.length := by
  rw [← h, List.length_append, List.length_reverse]
  exact Nat.le_add_right ..

theorem Thread.IsIn.next (h : t.IsIn text) (s : Step) : ∀ u ∈ t.next s, u.IsIn text := by
  obtain ⟨step, ⟨before, after⟩, start, opened, group⟩ := t
  cases s with
  | accept set =>
    cases after with
    | nil => simp [Thread.next]
    | cons c rest =>
      dsimp only [Thread.next]
      split
      · simpa [Thread.IsIn] using h
      · simp
  | check a =>
    dsimp only [Thread.next]
    split
    · simpa [Thread.IsIn] using h
    · simp
  | openGroup => simpa [Thread.next, Thread.IsIn] using h
  | closeGroup => simpa [Thread.next, Thread.IsIn] using h
  | fork first second => simpa [Thread.next, Thread.IsIn] using h
  | jump target => simpa [Thread.next, Thread.IsIn] using h

theorem Thread.IsIn.meets (ht : t.IsIn text) (hu : u.IsIn text) (hstep : t.step = u.step)
    (hoffset : t.place.offset = u.place.offset) : t.Meets u := by
  have hsame : t.place.before.reverse ++ t.place.after =
      u.place.before.reverse ++ u.place.after := ht.trans hu.symm
  have hlength : t.place.before.reverse.length = u.place.before.reverse.length := by
    rw [List.length_reverse, List.length_reverse]
    exact hoffset
  obtain ⟨hbefore, hafter⟩ := List.append_inj hsame hlength
  have hplace : t.place = u.place := by
    rw [List.reverse_inj] at hbefore
    cases htp : t.place with
    | mk before after =>
      cases hup : u.place with
      | mk before' after' => simp_all
  exact ⟨hstep, hplace⟩

/-- A visited thread fails, or takes more than `n` steps. -/
def Passes (program : Array Step) (text : List Char) (visited : Std.HashSet (Nat × Nat))
    (n : Nat) : Prop :=
  ∀ t : Thread, t.IsIn text → (t.step, t.place.offset) ∈ visited →
    ∀ k r, Backtracks program [t] k r → r ≠ none → n < k

theorem Passes.mono (h : Passes program text visited n) (hk : k ≤ n) :
    Passes program text visited k :=
  fun t ht hmem l r hl hr => Nat.lt_of_le_of_lt hk (h t ht hmem l r hl hr)

/-- The pairs of steps and places that are not visited. -/
def unvisited (program : Array Step) (text : List Char) (visited : Std.HashSet (Nat × Nat)) :
    Finset (Nat × Nat) :=
  (Finset.range program.size ×ˢ Finset.range (text.length + 1)).filter fun p => p ∉ visited

theorem card_unvisited_insert {p : Nat × Nat} (hstep : p.1 < program.size)
    (hplace : p.2 ≤ text.length) (hp : p ∉ visited) :
    (unvisited program text (visited.insert p)).card < (unvisited program text visited).card := by
  refine Finset.card_lt_card (Finset.ssubset_iff_subset_ne.mpr ⟨fun q hq => ?_, fun heq => ?_⟩)
  · simp only [unvisited, Finset.mem_filter, Std.HashSet.mem_insert, not_or] at hq ⊢
    exact ⟨hq.1, hq.2.2⟩
  · have hmem : p ∈ unvisited program text visited := by
      simp only [unvisited, Finset.mem_filter, Finset.mem_product, Finset.mem_range]
      exact ⟨⟨hstep, by omega⟩, hp⟩
    rw [← heq] at hmem
    simp [unvisited] at hmem

theorem length_next_le (t : Thread) (s : Step) : (t.next s).length ≤ 2 := by
  cases s with
  | accept set =>
    dsimp only [Thread.next]
    split
    · simp
    · split <;> simp
  | check a =>
    dsimp only [Thread.next]
    split <;> simp
  | openGroup => simp [Thread.next]
  | closeGroup => simp [Thread.next]
  | fork first second => simp [Thread.next]
  | jump target => simp [Thread.next]

/-- With fuel for every pair of a step and a place that is left, the search ends as backtracking
does. -/
theorem explore_eq_of_backtracks {fuel : Nat} (h : Backtracks program todo n r)
    (hpasses : Passes program text visited n) (hin : ∀ t ∈ todo, t.IsIn text)
    (hfuel : todo.length + 2 * (unvisited program text visited).card ≤ fuel) :
    explore program fuel visited todo = r := by
  induction n using Nat.strong_induction_on generalizing todo visited fuel r with
  | _ n ih =>
    cases todo with
    | nil =>
      cases h
      cases fuel <;> rfl
    | cons t todo =>
      obtain ⟨fuel, rfl⟩ : ∃ f, fuel = f + 1 := ⟨fuel - 1, by rw [List.length_cons] at hfuel; omega⟩
      have htin := hin t List.mem_cons_self
      have hrest : ∀ u ∈ todo, u.IsIn text := fun u hu => hin u (List.mem_cons_of_mem _ hu)
      rw [List.length_cons] at hfuel
      rw [explore]
      by_cases hvisited : (t.step, t.place.offset) ∈ visited
      · -- a visited thread cannot have the match, so it fails
        rw [if_pos (by simpa using hvisited)]
        have hwhole : Backtracks program ([t] ++ todo) n r := h
        rcases hwhole.split with ⟨k, l, rfl, hfail, hl⟩ | ⟨hr, hown⟩
        · have hk : 0 < k := by cases hfail; omega
          refine ih l (by omega) hl (hpasses.mono (by omega)) hrest (by omega)
        · exact absurd (hpasses t htin hvisited n r hown hr) (Nat.lt_irrefl n)
      · rw [if_neg (by simpa using hvisited)]
        cases h with
        | accept hend => rw [hend]
        | @step _ s _ n r hs hnext =>
          rw [hs]
          dsimp only
          have hwhole : Backtracks program ([t] ++ todo) (n + 1) r := .step hs hnext
          have hstep : t.step < program.size := by
            obtain ⟨hlt, -⟩ := Array.getElem?_eq_some_iff.mp hs
            exact hlt
          have hcard := card_unvisited_insert (p := (t.step, t.place.offset)) hstep
            htin.offset_le hvisited
          have hlength := length_next_le t s
          refine ih n (by omega) hnext ?_ ?_ ?_
          · intro u hu hmem k r' hk hr'
            rcases Std.HashSet.mem_insert.mp hmem with heq | hmem
            · -- a thread that meets `t` fails as `t` does, or takes as long
              obtain ⟨hsteps, hoffsets⟩ := Prod.mk.inj (eq_of_beq heq)
              have hmeets := hu.meets htin hsteps.symm hoffsets.symm
              obtain ⟨r'', hown, hnone⟩ := hk.of_meets (.cons hmeets .nil)
              rcases hwhole.split with ⟨l, _, -, hfail, -⟩ | ⟨-, hlong⟩
              · exact absurd (hnone.mp (hown.unique hfail).2) hr'
              · have hk := (hown.unique hlong).1
                omega
            · exact Nat.lt_of_succ_lt (hpasses u hu hmem k r' hk hr')
          · intro u hu
            rcases List.mem_append.mp hu with hu | hu
            · exact htin.next s u hu
            · exact hrest u hu
          · rw [List.length_append]
            omega

/-! ## Matches by their places -/

def Thread.startAt (p : Place) : Thread := ⟨0, p, p.before, 0, none⟩

theorem isIn_of_mem_onwards {before after : List Char} {p : Place}
    (hp : p ∈ Place.onwards before after) :
    p.before.reverse ++ p.after = before.reverse ++ after := by
  induction after generalizing before with
  | nil =>
    obtain rfl := List.mem_singleton.mp hp
    rfl
  | cons c rest ih =>
    rcases List.mem_cons.mp hp with rfl | hp
    · rfl
    · simpa using ih hp

theorem length_onwards (before after : List Char) :
    (Place.onwards before after).length = after.length + 1 := by
  induction after generalizing before with
  | nil => rfl
  | cons c rest ih => rw [Place.onwards, List.length_cons, ih, List.length_cons]

/-- Whether backtracking from a thread ends with a result. -/
def Yields (program : Array Step) (t : Thread) (r : Option Match) : Prop :=
  ∃ n, Backtracks program [t] n r

theorem Backtracks.of_forall_yields {f : Place → Option Match} {places : List Place}
    (h : ∀ p ∈ places, Yields program (Thread.startAt p) (f p)) :
    ∃ n, Backtracks program (places.map Thread.startAt) n (places.findSome? f) := by
  induction places with
  | nil => exact ⟨0, .nil⟩
  | cons p places ih =>
    obtain ⟨n, hn⟩ := h p List.mem_cons_self
    obtain ⟨k, hk⟩ := ih fun q hq => h q (List.mem_cons_of_mem _ hq)
    rw [List.map_cons, List.findSome?_cons]
    cases hf : f p with
    | none => exact ⟨n + k, (hf ▸ hn).append_none hk⟩
    | some m => exact ⟨n, (hf ▸ hn).append_some _⟩

/-- The first match of a program from a place of a text on. -/
def searchFrom? (program : Array Step) (before after : List Char) : Option Match :=
  explore program ((2 * program.size + 3) * (before.length + after.length + 1) + 1) ∅
    ((Place.onwards before after).map Thread.startAt)

theorem search?_eq_searchFrom? (program : Array Step) (text : List Char) :
    search? program text = searchFrom? program [] text := by
  rw [search?, searchFrom?, List.length_nil, Nat.zero_add]
  rfl

/-- **Searching is backtracking.** If backtracking ends wherever it begins from a place of a text
on, the search from there gives the result of the first place with a match. -/
theorem searchFrom?_eq_findSome? {f : Place → Option Match} {before after : List Char}
    (h : ∀ p ∈ Place.onwards before after, Yields program (Thread.startAt p) (f p)) :
    searchFrom? program before after = (Place.onwards before after).findSome? f := by
  obtain ⟨n, hn⟩ := Backtracks.of_forall_yields h
  have hpasses : Passes program (before.reverse ++ after) ∅ n := by
    intro t _ hmem
    simp at hmem
  have hin : ∀ t ∈ (Place.onwards before after).map Thread.startAt,
      t.IsIn (before.reverse ++ after) := by
    intro t ht
    obtain ⟨p, hp, rfl⟩ := List.mem_map.mp ht
    exact isIn_of_mem_onwards hp
  have hcard : (unvisited program (before.reverse ++ after) ∅).card ≤
      program.size * (before.length + after.length + 1) := by
    refine (Finset.card_filter_le _ _).trans_eq ?_
    rw [Finset.card_product, Finset.card_range, Finset.card_range, List.length_append,
      List.length_reverse]
  refine explore_eq_of_backtracks hn hpasses hin ?_
  rw [List.length_map, length_onwards, Nat.add_mul, Nat.mul_assoc]
  omega

end MarcHarvest.Pattern
