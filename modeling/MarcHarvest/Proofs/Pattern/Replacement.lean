import MarcHarvest.Filter
import MarcHarvest.Proofs.Pattern.Compilation

/-!
# Replacing the first match

A filter changes a text as its pattern says (`apply_ofPattern`): going through the places of the
text, it replaces the first match.
-/

namespace MarcHarvest

def Filter.ofPattern (p : Pattern) : Filter := ⟨p, (p.compile 0).toArray⟩

namespace Pattern

/-- What takes the place of a text with a match. -/
def Match.text (m : Match) : List Char := m.before ++ m.group.getD [] ++ m.after

/-- The text around a place with the first match from there on replaced. -/
def replaceFirst (p : Pattern) (before after : List Char) : List Char :=
  (((Place.onwards before after).findSome? p.matchAt?).map Match.text).getD
    (before.reverse ++ after)

theorem apply_ofPattern {p : Pattern} (h : p.ends = true) (s : String) :
    (Filter.ofPattern p).apply s = String.ofList (p.replaceFirst [] s.toList) := by
  rw [Filter.apply, Filter.ofPattern, search?_compile h, replaceFirst]
  cases (Place.onwards [] s.toList).findSome? p.matchAt? with
  | none => simp
  | some m => rfl

variable {p : Pattern} {before after : List Char}

theorem replaceFirst_of_match {text : List Char}
    (h : (p.matchAt? ⟨before, after⟩).map Match.text = some text) :
    p.replaceFirst before after = text := by
  obtain ⟨m, hm, rfl⟩ := Option.map_eq_some_iff.mp h
  cases after <;> simp [replaceFirst, Place.onwards, hm]

theorem replaceFirst_of_no_match {c : Char} {rest : List Char}
    (h : (p.matchAt? ⟨before, c :: rest⟩).map Match.text = none) :
    p.replaceFirst before (c :: rest) = p.replaceFirst (c :: before) rest := by
  rw [Option.map_eq_none_iff] at h
  simp [replaceFirst, Place.onwards, h]

/-- A pattern that matches from some places to the end cuts the text at the first such place. -/
theorem replaceFirst_eq {cuts : List Char → Bool} {rule : List Char → List Char}
    (cut : List Char → List Char)
    (hmatch : ∀ before after, (p.matchAt? ⟨before, after⟩).map Match.text =
      if cuts after then some (before.reverse ++ cut after) else none)
    (hempty : cuts [] = false) (hnil : rule [] = [])
    (hcons : ∀ c rest, rule (c :: rest) =
      if cuts (c :: rest) then cut (c :: rest) else c :: rule rest)
    (before after : List Char) : p.replaceFirst before after = before.reverse ++ rule after := by
  induction after generalizing before with
  | nil =>
    have hnone := hmatch before []
    rw [hempty, if_neg Bool.false_ne_true, Option.map_eq_none_iff] at hnone
    simp [replaceFirst, Place.onwards, hnone, hnil]
  | cons c rest ih =>
    have hplace := hmatch before (c :: rest)
    rw [hcons]
    by_cases hcuts : cuts (c :: rest) = true
    · rw [if_pos hcuts] at hplace ⊢
      exact replaceFirst_of_match hplace
    · rw [if_neg hcuts] at hplace ⊢
      rw [replaceFirst_of_no_match hplace, ih, List.reverse_cons, List.append_assoc,
        List.singleton_append]

end Pattern

end MarcHarvest
