import Mathlib.Data.List.DropRight
import MarcHarvest.Text.Trim

/-!
# Blanks at the ends of a text

Without the blanks at its ends a text is a piece of what it was (`infix_trimBlanks`), which begins and
ends with other characters and has lost none of these (`mem_trimBlanks`).
-/

namespace MarcHarvest.Text

theorem mem_dropWhile_of_not {p : Char → Bool} {c : Char} {l : List Char} (hc : c ∈ l)
    (hp : p c = false) : c ∈ l.dropWhile p := by
  rw [← List.takeWhile_append_dropWhile (p := p) (l := l), List.mem_append] at hc
  refine hc.resolve_left fun htake => ?_
  rw [List.mem_takeWhile_imp htake] at hp
  cases hp

theorem last_rdropWhile {p : Char → Bool} {l : List Char} {c : Char}
    (h : (l.rdropWhile p).getLast? = some c) : p c = false := by
  have hne : l.rdropWhile p ≠ [] := by
    intro hnil
    simp [hnil] at h
  have hlast := List.rdropWhile_last_not p l hne
  rw [List.getLast?_eq_some_getLast hne] at h
  rw [Option.some.inj h] at hlast
  exact Bool.eq_false_iff.mpr hlast

theorem rdropWhile_append_of_all {p : Char → Bool} {l tail : List Char}
    (h : ∀ c ∈ tail, p c = true) : (l ++ tail).rdropWhile p = l.rdropWhile p := by
  have hreverse : ∀ c ∈ tail.reverse, p c = true := fun c hc => h c (List.mem_reverse.mp hc)
  rw [List.rdropWhile, List.reverse_append, List.dropWhile_append_of_pos hreverse, List.rdropWhile]

theorem trimBlanks_eq_rdropWhile (l : List Char) :
    trimBlanks l = (l.dropWhile isBlank).rdropWhile isBlank := rfl

theorem infix_trimBlanks (l : List Char) : trimBlanks l <:+: l := by
  have hend := List.rdropWhile_prefix isBlank (l.dropWhile isBlank)
  have hstart := List.dropWhile_suffix isBlank (l := l)
  exact hend.isInfix.trans hstart.isInfix

theorem head?_trimBlanks {l : List Char} {c : Char} (h : (trimBlanks l).head? = some c) :
    isBlank c = false := by
  obtain ⟨rest, hrest⟩ : ∃ rest, trimBlanks l = c :: rest := List.head?_eq_some_iff.mp h
  obtain ⟨tail, htail⟩ := List.rdropWhile_prefix isBlank (l.dropWhile isBlank)
  have hdrop : l.dropWhile isBlank = c :: (rest ++ tail) := by
    rw [← htail, ← List.cons_append, ← hrest]
    rfl
  have hnot := List.head?_dropWhile_not isBlank l
  rwa [hdrop] at hnot

theorem getLast?_trimBlanks {l : List Char} {c : Char} (h : (trimBlanks l).getLast? = some c) :
    isBlank c = false := last_rdropWhile h

theorem mem_trimBlanks {c : Char} {l : List Char} (hc : c ∈ l) (hblank : isBlank c = false) :
    c ∈ trimBlanks l := by
  rw [trimBlanks, dropEndWhile, List.mem_reverse]
  exact mem_dropWhile_of_not (List.mem_reverse.mpr (mem_dropWhile_of_not hc hblank)) hblank

theorem trimBlanks_eq_self {l : List Char} (h : ∀ c ∈ l, isBlank c = false) :
    trimBlanks l = l := by
  have hstart : l.dropWhile isBlank = l := by
    rw [List.dropWhile_eq_self_iff]
    intro hl
    rw [h _ (List.getElem_mem hl)]
    exact Bool.false_ne_true
  rw [trimBlanks_eq_rdropWhile, hstart, List.rdropWhile_eq_self_iff]
  intro hl
  rw [h _ (List.getLast_mem hl)]
  exact Bool.false_ne_true

theorem trimBlanks_around {before l after : List Char} (hbefore : ∀ c ∈ before, isBlank c = true)
    (hafter : ∀ c ∈ after, isBlank c = true)
    (hfirst : ∀ c, l.head? = some c → isBlank c = false)
    (hlast : ∀ c, l.getLast? = some c → isBlank c = false) :
    trimBlanks (before ++ (l ++ after)) = l := by
  rw [trimBlanks_eq_rdropWhile, List.dropWhile_append_of_pos hbefore]
  cases l with
  | nil =>
    rw [List.nil_append, List.dropWhile_eq_nil_iff.mpr hafter]
    rfl
  | cons c rest =>
    have hc : isBlank c = false := hfirst c rfl
    rw [List.cons_append, List.dropWhile_cons, hc, if_neg Bool.false_ne_true, ← List.cons_append,
      rdropWhile_append_of_all hafter, List.rdropWhile_eq_self_iff]
    intro hne
    rw [hlast _ (List.getLast?_eq_some_getLast hne)]
    exact Bool.false_ne_true

theorem trimBlanks_map {f : Char → Char} (hf : ∀ c, isBlank (f c) = isBlank c) (l : List Char) :
    trimBlanks (l.map f) = (trimBlanks l).map f := by
  have hcomp : isBlank ∘ f = isBlank := funext hf
  unfold trimBlanks dropEndWhile
  rw [List.dropWhile_map, hcomp, ← List.map_reverse, List.dropWhile_map, hcomp, ← List.map_reverse]

end MarcHarvest.Text
