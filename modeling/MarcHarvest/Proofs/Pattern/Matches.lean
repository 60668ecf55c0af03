import MarcHarvest.Proofs.Pattern.Replacement

/-!
# All matches of a pattern

A text is cut at the matches of a program from left to right: each match is searched from the end of
the one before (`cutFrom`). What lies before that end is not searched again, but still decides
whether a word begins there.

With a compiled pattern the cut goes through the text place by place. Where the pattern matches, the
match is cut off (`cutFrom_of_match`); elsewhere one character is passed over
(`cutFrom_of_no_match`). All this is for patterns that take a character: an empty match ends the cut.
-/

namespace MarcHarvest.Pattern

/-! ## Cuts -/

/-- A text cut at matches: each match after what was passed over before it, and what is left. -/
structure Cut where
  pieces : List (List Char × List Char)
  rest : List Char

namespace Cut

def found (cut : Cut) : List (List Char) := cut.pieces.map Prod.snd

/-- The text with `f` applied to each match. -/
def replaced (f : List Char → List Char) (cut : Cut) : List Char :=
  (cut.pieces.flatMap fun piece => piece.1 ++ f piece.2) ++ cut.rest

/-- The cut of the text with one more character before it. -/
def passOver (c : Char) : Cut → Cut
  | ⟨[], rest⟩ => ⟨[], c :: rest⟩
  | ⟨(passed, found) :: pieces, rest⟩ => ⟨(c :: passed, found) :: pieces, rest⟩

/-- The cut of the text with a match before it. -/
def cutOff (found : List Char) (cut : Cut) : Cut := ⟨([], found) :: cut.pieces, cut.rest⟩

variable (c : Char) (l : List Char) (f : List Char → List Char) (cut : Cut)

@[simp] theorem found_passOver : (cut.passOver c).found = cut.found := by
  obtain ⟨pieces, rest⟩ := cut
  cases pieces <;> rfl

@[simp] theorem replaced_passOver : (cut.passOver c).replaced f = c :: cut.replaced f := by
  obtain ⟨pieces, rest⟩ := cut
  cases pieces <;> rfl

@[simp] theorem found_cutOff : (cut.cutOff l).found = l :: cut.found := rfl

@[simp] theorem replaced_cutOff : (cut.cutOff l).replaced f = f l ++ cut.replaced f := by
  simp [cutOff, replaced]

end Cut

/-- A text from a place on, cut at the matches of a program. -/
def cutFrom (program : Array Step) (before after : List Char) : Cut :=
  match searchFrom? program before after with
  | none => ⟨[], after⟩
  | some m =>
    let passed := m.before.drop before.length
    let upTo := after.take (after.length - m.after.length)
    if m.after.length < after.length then
      let cut := cutFrom program (upTo.reverse ++ before) m.after
      ⟨(passed, upTo.drop passed.length) :: cut.pieces, cut.rest⟩
    else ⟨[], after⟩
termination_by after.length

/-! ## Place by place -/

theorem mem_onwards {before after : List Char} {place : Place}
    (h : place ∈ Place.onwards before after) :
    ∃ passed, place.before = passed.reverse ++ before ∧ after = passed ++ place.after := by
  induction after generalizing before with
  | nil =>
    obtain rfl := List.mem_singleton.mp h
    exact ⟨[], rfl, rfl⟩
  | cons c rest ih =>
    rcases List.mem_cons.mp h with rfl | h
    · exact ⟨[], rfl, rfl⟩
    · obtain ⟨passed, hbefore, rfl⟩ := ih h
      exact ⟨c :: passed, by simp [hbefore], rfl⟩

variable {p : Pattern} {before found rest : List Char} {c : Char}

theorem exists_of_searchFrom? (h : p.ends = true) (hp : p.canBeEmpty = false)
    {after : List Char} {m : Match}
    (hm : searchFrom? (p.compile 0).toArray before after = some m) :
    (∃ passed, m.before = before.reverse ++ passed) ∧ m.after.length < after.length := by
  rw [searchFrom?_compile h] at hm
  obtain ⟨place, hplace, hmatch⟩ := List.exists_of_findSome?_eq_some hm
  obtain ⟨passed, hbefore, rfl⟩ := mem_onwards hplace
  obtain ⟨u, hu, rfl⟩ := Option.map_eq_some_iff.mp hmatch
  have hleft := (left_outcomes p _ u (List.mem_of_head? hu)).2 hp
  refine ⟨⟨passed, by simp [hbefore]⟩, ?_⟩
  rw [List.length_append]
  exact Nat.lt_add_left _ hleft

theorem cutFrom_nil (program : Array Step) (before : List Char) :
    cutFrom program before [] = ⟨[], []⟩ := by
  rw [cutFrom]
  split
  · rfl
  · exact if_neg (Nat.not_lt_zero _)

theorem cutFrom_of_match (h : p.ends = true) (hfound : found ≠ []) {group : Option (List Char)}
    (hmatch : p.matchAt? ⟨before, found ++ rest⟩ = some ⟨before.reverse, group, rest⟩) :
    cutFrom (p.compile 0).toArray before (found ++ rest) =
      (cutFrom (p.compile 0).toArray (found.reverse ++ before) rest).cutOff found := by
  have hsearch : searchFrom? (p.compile 0).toArray before (found ++ rest) =
      some ⟨before.reverse, group, rest⟩ := by
    obtain ⟨d, more, rfl⟩ := List.exists_cons_of_ne_nil hfound
    rw [List.cons_append] at hmatch ⊢
    rw [searchFrom?_compile h, Place.onwards, List.findSome?_cons, hmatch]
  have hpos := List.length_pos_iff.mpr hfound
  rw [cutFrom, hsearch]
  simp [Cut.cutOff, hpos]

theorem cutFrom_of_no_match (h : p.ends = true) (hp : p.canBeEmpty = false)
    (hmatch : p.matchAt? ⟨before, c :: rest⟩ = none) :
    cutFrom (p.compile 0).toArray before (c :: rest) =
      (cutFrom (p.compile 0).toArray (c :: before) rest).passOver c := by
  have hsearch : searchFrom? (p.compile 0).toArray before (c :: rest) =
      searchFrom? (p.compile 0).toArray (c :: before) rest := by
    rw [searchFrom?_compile h, searchFrom?_compile h, Place.onwards, List.findSome?_cons, hmatch]
  rw [cutFrom, cutFrom, hsearch]
  cases hm : searchFrom? (p.compile 0).toArray (c :: before) rest with
  | none => rfl
  | some m =>
    obtain ⟨⟨passed, hbefore⟩, hlt⟩ := exists_of_searchFrom? h hp hm
    have hcount : rest.length + 1 - m.after.length = rest.length - m.after.length + 1 := by omega
    have hpassed : m.before.drop before.length = c :: passed := by simp [hbefore]
    have hpassed' : m.before.drop (before.length + 1) = passed := by
      rw [hbefore, List.drop_left' (by simp)]
    simp [Cut.passOver, hlt, Nat.lt_succ_of_lt hlt, hcount, hpassed, hpassed']

end MarcHarvest.Pattern

namespace MarcHarvest.Filter

/-- The matches of a filter in a text. -/
def findAll (f : Filter) (text : List Char) : List (List Char) :=
  (Pattern.cutFrom f.program [] text).found

/-- A text with `g` applied to each match of a filter. -/
def replaceAll (f : Filter) (g : List Char → List Char) (text : List Char) : List Char :=
  (Pattern.cutFrom f.program [] text).replaced g

end MarcHarvest.Filter
