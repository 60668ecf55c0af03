import Mathlib.Data.List.DropRight
import Mathlib.Data.List.TakeWhile
import MarcHarvest.Text.Split

/-!
# Pieces of a text

The pieces between separators are the runs that go from one separator to the next, and the library's
function for lists finds them (`splitOn_eq`, `mem_splitOn_iff`). A piece is read in chunks of three
characters: a chunk stands behind a whole number of others (`mem_triples_iff`), so a cut at a multiple
of three goes through none (`triples_append`).
-/

namespace MarcHarvest.Text

/-! ## Maximal runs -/

section Runs

variable {p : Char → Bool} {l w : List Char}

theorem splitOnP_eq_cons_tail (p : Char → Bool) (l : List Char) :
    l.splitOnP (fun c => !p c) = l.takeWhile p :: (l.splitOnP fun c => !p c).tail := by
  induction l with
  | nil => rfl
  | cons c rest ih =>
    rw [List.splitOnP_cons_eq_if_modifyHead, List.takeWhile_cons]
    cases p c with
    | false => rfl
    | true =>
      rw [ih]
      rfl

theorem any_head?_dropWhile (p : Char → Bool) (l : List Char) :
    (l.dropWhile p).head?.any p = false := by
  have hhead := List.head?_dropWhile_not p l
  cases hrest : (l.dropWhile p).head? with
  | none => rfl
  | some c => rwa [hrest] at hhead

theorem takeWhile_append (hw : ∀ c ∈ w, p c) {rest : List Char} (hrest : rest.head?.any p = false) :
    (w ++ rest).takeWhile p = w := by
  rw [List.takeWhile_append_of_pos hw]
  cases rest with
  | nil => exact List.append_nil w
  | cons c rest =>
    rw [List.takeWhile_cons_of_neg (Bool.not_eq_true _ ▸ hrest), List.append_nil]

theorem exists_of_mem_tail_splitOnP (h : w ∈ (l.splitOnP fun c => !p c).tail) :
    ∃ before d rest, l = before ++ d :: rest ∧ p d = false ∧ w = rest.takeWhile p := by
  induction l with
  | nil => cases h
  | cons c l ih =>
    have hlater : w ∈ (l.splitOnP fun c => !p c).tail →
        ∃ before d rest, c :: l = before ++ d :: rest ∧ p d = false ∧ w = rest.takeWhile p := by
      intro h
      obtain ⟨before, d, rest, rfl, hd, hw⟩ := ih h
      exact ⟨c :: before, d, rest, rfl, hd, hw⟩
    rw [List.splitOnP_cons_eq_if_modifyHead, splitOnP_eq_cons_tail p l] at h
    cases hc : p c with
    | true =>
      rw [hc] at h
      exact hlater h
    | false =>
      rw [hc] at h
      rcases List.mem_cons.mp h with hw | h
      · exact ⟨[], c, l, rfl, hc, hw⟩
      · exact hlater h

theorem mem_splitOnP_iff :
    w ∈ l.splitOnP (fun c => !p c) ↔
      (∀ c ∈ w, p c) ∧ ∃ before after, l = before ++ (w ++ after) ∧
        before.reverse.head?.any p = false ∧ after.head?.any p = false := by
  constructor
  · intro h
    rw [splitOnP_eq_cons_tail, List.mem_cons] at h
    rcases h with rfl | h
    · exact ⟨fun c => List.mem_takeWhile_imp, [], l.dropWhile p,
        List.takeWhile_append_dropWhile.symm, rfl, any_head?_dropWhile p l⟩
    · obtain ⟨before, d, rest, rfl, hd, rfl⟩ := exists_of_mem_tail_splitOnP h
      refine ⟨fun c => List.mem_takeWhile_imp, before ++ [d], rest.dropWhile p, ?_, ?_,
        any_head?_dropWhile p rest⟩
      · rw [List.takeWhile_append_dropWhile, List.append_assoc, List.singleton_append]
      · rwa [List.reverse_concat]
  · rintro ⟨hw, before, after, rfl, hbefore, hafter⟩
    have hfirst : w ∈ (w ++ after).splitOnP fun c => !p c := by
      rw [splitOnP_eq_cons_tail, takeWhile_append hw hafter]
      exact List.mem_cons_self
    rcases List.eq_nil_or_concat before with rfl | ⟨before, d, rfl⟩
    · exact hfirst
    · rw [List.concat_eq_append, List.reverse_append] at hbefore
      have hd : (fun c => !p c) d = true := by simpa using hbefore
      rw [List.concat_eq_append, List.append_assoc, List.singleton_append,
        List.splitOnP_append_cons before (w ++ after) hd]
      exact List.mem_append_right _ hfirst

end Runs

/-! ## Separators -/

section Separators

variable {sep : Char} {l w : List Char}

theorem splitOn_eq (sep : Char) (l : List Char) : splitOn sep l = l.splitOn sep := by
  induction l with
  | nil => rfl
  | cons c rest ih =>
    rw [splitOn, List.splitOn_cons_eq_if_modifyHead, ih]
    by_cases hc : c = sep
    · rw [if_pos hc, if_pos (beq_iff_eq.mpr hc)]
    · rw [if_neg hc, if_neg (mt beq_iff_eq.mp hc)]
      obtain ⟨piece, pieces, hsplit⟩ := List.exists_cons_of_ne_nil (List.splitOn_ne_nil sep rest)
      rw [hsplit]
      rfl

theorem splitOn_eq_splitOnP (sep : Char) (l : List Char) :
    l.splitOn sep = l.splitOnP fun c => !(c != sep) := by
  rw [List.splitOn_eq_splitOnP]
  simp only [bne, Bool.not_not]

theorem not_mem_of_mem_splitOn (h : w ∈ l.splitOn sep) : sep ∉ w := by
  rw [splitOn_eq_splitOnP, mem_splitOnP_iff] at h
  intro hsep
  simpa using h.1 sep hsep

theorem mem_splitOn_iff :
    w ∈ l.splitOn sep ↔
      sep ∉ w ∧ ∃ before after, l = before ++ (w ++ after) ∧
        before.reverse.head?.any (· != sep) = false ∧ after.head?.any (· != sep) = false := by
  rw [splitOn_eq_splitOnP, mem_splitOnP_iff]
  refine and_congr_left fun _ => ⟨fun h hsep => ?_, fun h c hc => ?_⟩
  · simpa using h sep hsep
  · exact bne_iff_ne.mpr fun heq => h (heq ▸ hc)

end Separators

/-! ## Chunks -/

section Chunks

variable {l w : List Char}

theorem length_lt_three (h : ∀ a b c rest, l = a :: b :: c :: rest → False) : l.length < 3 := by
  match l with
  | [] | [_] | [_, _] => simp
  | a :: b :: c :: rest => exact (h a b c rest rfl).elim

theorem eq_nil_of_dvd (h : 3 ∣ l.length) (hshort : l.length < 3) : l = [] :=
  List.length_eq_zero_iff.mp (Nat.eq_zero_of_dvd_of_lt h hshort)

theorem triples_eq (l : List Char) :
    triples l = (List.range (l.length / 3)).map fun k => (l.drop (3 * k)).take 3 := by
  induction l using triples.induct with
  | case1 a b c rest ih =>
    have hlength : (a :: b :: c :: rest).length / 3 = rest.length / 3 + 1 :=
      Nat.add_div_right rest.length (Nat.zero_lt_succ 2)
    rw [triples, ih, hlength, List.range_succ_eq_map, List.map_cons, List.map_map]
    rfl
  | case2 l hshort =>
    rw [triples.eq_2 l hshort, Nat.div_eq_of_lt (length_lt_three hshort)]
    rfl

/-- A chunk is three characters behind a whole number of chunks. -/
theorem mem_triples_iff :
    w ∈ triples l ↔
      w.length = 3 ∧ ∃ before after, l = before ++ (w ++ after) ∧ 3 ∣ before.length := by
  constructor
  · intro h
    induction l using triples.induct with
    | case1 a b c rest ih =>
      rw [triples, List.mem_cons] at h
      rcases h with rfl | h
      · exact ⟨rfl, [], rest, rfl, Nat.dvd_zero 3⟩
      · obtain ⟨hw, before, after, rfl, hdvd⟩ := ih h
        exact ⟨hw, a :: b :: c :: before, after, rfl, Nat.dvd_add_self_right.mpr hdvd⟩
    | case2 l hshort =>
      rw [triples.eq_2 l hshort] at h
      cases h
  · rintro ⟨hw, before, after, rfl, hdvd⟩
    induction before using triples.induct with
    | case1 a b c before ih =>
      exact List.mem_cons_of_mem _ (ih (Nat.dvd_add_self_right.mp hdvd))
    | case2 before hshort =>
      obtain rfl := eq_nil_of_dvd hdvd (length_lt_three hshort)
      obtain ⟨x, y, z, rfl⟩ := List.length_eq_three.mp hw
      exact List.mem_cons_self

/-- A cut behind a whole number of chunks goes through none. -/
theorem triples_append (h : 3 ∣ l.length) (m : List Char) :
    triples (l ++ m) = triples l ++ triples m := by
  induction l using triples.induct with
  | case1 a b c rest ih =>
    change [a, b, c] :: triples (rest ++ m) = _
    rw [ih (Nat.dvd_add_self_right.mp h)]
    rfl
  | case2 l hshort =>
    obtain rfl := eq_nil_of_dvd h (length_lt_three hshort)
    rfl

end Chunks

end MarcHarvest.Text
