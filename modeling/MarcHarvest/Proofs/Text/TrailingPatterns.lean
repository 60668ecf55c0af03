import Mathlib.Data.List.TakeWhile
import MarcHarvest.Text.Punctuation
import MarcHarvest.Proofs.Pattern.Replacement

/-!
# Trailing punctuation by patterns

The first three rules for trailing punctuation are usually written as patterns: a text loses its
first match of each, but for what the group held. That is what the rules do (`byPatterns?_eq`).

The places of a text are tried in order, as the rules go through the text from its start. At each
place the patterns leave no choice: no run of characters in them can be followed by one of its own
kind, so only whole runs count.
-/

namespace MarcHarvest.Text

open Pattern

/-! ## The patterns -/

def spaces : Pattern := times (one (.single ' ')) 0 none true

def markSet : CharSet :=
  .union (.union (.union (.union .none (.single ',')) (.single '/')) (.single ';')) (.single ':')

def spacesAtEnd : Pattern := seq spaces (assertion .textEnd)

/-- One mark at the end, with the spaces around it. -/
def markPattern : Pattern := seq spaces (seq (group none (one markSet)) spacesAtEnd)

def wordSet : CharSet :=
  .union (.union (.union (.union (.union (.union .none (.property .alphabetic)) (.single ','))
    (.range 'A' 'Z')) (.range 'a' 'z')) (.range '0' '9')) (.single '_')

def word : Pattern := times (group none (one wordSet)) 3 none true

def periodAtEnd : Pattern := seq (one (.single '.')) (assertion .textEnd)

/-- A period at the end after three characters of words or more. -/
def periodPattern : Pattern := seq (group (some 1) (seq spaces word)) periodAtEnd

def bracketSet : CharSet := .union (.union .none (.single '[')) (.single ']')

def inner : Pattern := times (group none (one (.compl bracketSet))) 1 none true

def closingAtEnd : Pattern :=
  seq (times (one (.single ']')) 0 (some 1) true) (assertion .textEnd)

/-- A whole text without brackets, but for one before and one after it. -/
def bracketPattern : Pattern :=
  seq (assertion .textStart) (seq (times (one (.single '[')) 0 (some 1) true)
    (seq (group (some 1) inner) closingAtEnd))

def patterns : List String :=
  [" *[,/;:] *$", "( *[\\p\x7bAlphabetic\x7d,A-Za-z0-9_]\x7b3,\x7d)\\.$", "^\\[?([^\\[\\]]+)\\]?$"]

theorem mapM_ofText?_patterns : patterns.mapM Filter.ofText? =
    some [Filter.ofPattern markPattern, Filter.ofPattern periodPattern,
      Filter.ofPattern bracketPattern] := rfl

/-- Trailing punctuation by patterns, one after the other, then without blanks at both ends and
without a period alone. -/
def byPatterns? (s : String) : Option String := do
  let filters ← patterns.mapM Filter.ofText?
  let text := filters.foldl (fun text f => f.apply text) s
  let trimmed := String.ofList (trimBlanks text.toList)
  return if trimmed = "." then "" else trimmed

/-! ## Kinds of characters -/

theorem contains_single (c d : Char) : (CharSet.single c).contains d = (d == c) := by
  rw [Bool.eq_iff_iff]
  simp only [CharSet.single, CharSet.contains, Bool.and_eq_true, decide_eq_true_eq, beq_iff_eq]
  constructor
  · intro h
    exact Char.toNat_inj.mp (by omega)
  · rintro rfl
    exact ⟨Nat.le_refl _, Nat.le_refl _⟩

theorem contains_markSet (c : Char) : markSet.contains c = isMark c := by
  simp [markSet, CharSet.contains, contains_single, isMark]

theorem contains_bracketSet (c : Char) : bracketSet.contains c = isBracket c := by
  simp [bracketSet, CharSet.contains, contains_single, isBracket]

theorem contains_upper (c : Char) : (CharSet.range 'A' 'Z').contains c = c.isUpper := by
  have hupper : c.isUpper = decide (c.val ≥ 'A'.val ∧ c.val ≤ 'Z'.val) := rfl
  rw [hupper]
  simp [CharSet.contains, UInt32.le_iff_toNat_le]

theorem contains_lower (c : Char) : (CharSet.range 'a' 'z').contains c = c.isLower := by
  have hlower : c.isLower = (decide (c.val ≥ 'a'.val) && decide (c.val ≤ 'z'.val)) := rfl
  rw [hlower]
  simp [CharSet.contains, UInt32.le_iff_toNat_le]

theorem contains_digit (c : Char) : (CharSet.range '0' '9').contains c = c.isDigit := by
  simp [CharSet.contains, Char.isDigit, UInt32.le_iff_toNat_le]

theorem isAlpha_eq (c : Char) : c.isAlpha =
    ((CharSet.range 'A' 'Z').contains c || (CharSet.range 'a' 'z').contains c) := by
  rw [contains_upper, contains_lower]
  rfl

theorem isAlphabetic_of_isAlpha {v : Unicode.Version} {c : Char} (h : c.isAlpha = true) :
    Unicode.isAlphabetic v c = true := by
  have hascii : Unicode.isAscii c = true := by
    rw [isAlpha_eq] at h
    simp only [CharSet.contains, Char.reduceToNat, Bool.or_eq_true, Bool.and_eq_true,
      decide_eq_true_eq] at h
    simp only [Unicode.isAscii, decide_eq_true_eq]
    omega
  rw [Unicode.isAlphabetic, if_pos hascii, h]

theorem contains_wordSet (c : Char) : wordSet.contains c = isPeriodWord c := by
  have halpha : Unicode.isAlphabetic .v16 c = (Unicode.isAlphabetic .v16 c ||
      ((CharSet.range 'A' 'Z').contains c || (CharSet.range 'a' 'z').contains c)) := by
    rw [← isAlpha_eq]
    cases h : c.isAlpha with
    | false => rw [Bool.or_false]
    | true => rw [isAlphabetic_of_isAlpha h, Bool.or_true]
  have hunion : ∀ a b : CharSet, (a.union b).contains c = (a.contains c || b.contains c) :=
    fun _ _ => rfl
  have hproperty : (CharSet.property .alphabetic).contains c = Unicode.isAlphabetic .v16 c := rfl
  have hnone : CharSet.none.contains c = false := rfl
  rw [isPeriodWord, halpha, wordSet]
  simp only [hunion, hproperty, hnone, contains_digit, contains_single, Bool.false_or]
  ac_rfl

/-! ## Matches at a place -/

variable {before after : List Char} {opened : Nat} {held : Option (List Char)}

/-- Spaces count as far as they go before anything that does not begin with a space. -/
theorem flatMap_spaces {k : Stage → List Stage}
    (hk : ∀ before rest, k ⟨⟨before, ' ' :: rest⟩, opened, held⟩ = []) :
    (spaces.outcomes ⟨⟨before, after⟩, opened, held⟩).flatMap k =
      k ⟨⟨(after.takeWhile (· == ' ')).reverse ++ before, after.dropWhile (· == ' ')⟩, opened,
        held⟩ := by
  have hone := outcomes_one (contains_single ' ')
  rw [spaces, flatMap_outcomes_run hone, if_pos (Nat.zero_le _)]
  intro c before rest hc
  rw [beq_iff_eq.mp hc]
  exact hk before rest

theorem outcomes_spacesAtEnd :
    spacesAtEnd.outcomes ⟨⟨before, after⟩, opened, held⟩ =
      if after.all (· == ' ') then [⟨⟨after.reverse ++ before, []⟩, opened, held⟩] else [] := by
  rw [spacesAtEnd, outcomes,
    flatMap_spaces fun before rest => by rw [outcomes_textEnd]; rfl, outcomes_textEnd]
  have hall : after.dropWhile (· == ' ') = [] ↔ after.all (· == ' ') = true := by
    rw [List.dropWhile_eq_nil_iff, List.all_eq_true]
  by_cases h : after.all (· == ' ') = true
  · have hrun : after.takeWhile (· == ' ') = after :=
      List.takeWhile_eq_self_iff.mpr (List.all_eq_true.mp h)
    rw [if_pos h, if_pos (hall.mpr h), hrun, hall.mpr h]
  · rw [if_neg h, if_neg (mt hall.mp h)]

theorem matchAt?_mark (before after : List Char) :
    markPattern.matchAt? ⟨before, after⟩ =
      if isClosingMark after then some ⟨before.reverse, none, []⟩ else none := by
  have hmark := outcomes_one contains_markSet
  have hrest : ∀ s, (seq (group none (one markSet)) spacesAtEnd).outcomes s =
      (takeOne isMark s).flatMap spacesAtEnd.outcomes := by
    intro s
    rw [outcomes, outcomes_group_none, hmark]
  rw [matchAt?, markPattern, outcomes, flatMap_spaces fun before rest => by rw [hrest]; rfl, hrest,
    isClosingMark]
  cases after.dropWhile (· == ' ') with
  | nil => rfl
  | cons c rest =>
    rw [takeOne_cons]
    by_cases hc : isMark c = true
    · rw [if_pos hc, List.flatMap_singleton, outcomes_spacesAtEnd]
      by_cases hspaces : rest.all (· == ' ') = true
      · simp [hc, hspaces]
      · simp [hc, hspaces]
    · simp [hc]

theorem outcomes_periodAtEnd :
    periodAtEnd.outcomes ⟨⟨before, after⟩, opened, held⟩ =
      if after = ['.'] then [⟨⟨'.' :: before, []⟩, opened, held⟩] else [] := by
  rw [periodAtEnd, outcomes, outcomes_one (contains_single '.')]
  cases after with
  | nil => rfl
  | cons c rest =>
    by_cases hc : c = '.'
    · subst hc
      cases rest <;> simp [outcomes_textEnd]
    · simp [hc]

/-- At the last three characters of words or more there is no other place for the period. -/
theorem flatMap_words :
    (word.outcomes ⟨⟨before, after⟩, opened, held⟩).flatMap
        (fun u => periodAtEnd.outcomes u.closeGroup) =
      if 3 ≤ (after.takeWhile isPeriodWord).length ∧ after.dropWhile isPeriodWord = ['.'] then
        [⟨⟨'.' :: ((after.takeWhile isPeriodWord).reverse ++ before), []⟩, opened,
          some (Place.since ⟨(after.takeWhile isPeriodWord).reverse ++ before, ['.']⟩ opened)⟩]
      else [] := by
  have hword : (group none (one wordSet)).outcomes = takeOne isPeriodWord := by
    rw [outcomes_group_none, outcomes_one contains_wordSet]
  have hperiod : isPeriodWord '.' = false := by decide
  have hrun : ∀ c before rest, isPeriodWord c = true →
      periodAtEnd.outcomes (Stage.closeGroup ⟨⟨before, c :: rest⟩, opened, held⟩) = [] := by
    intro c before rest hc
    have hne : ¬ c :: rest = ['.'] := by
      intro h
      rw [(List.cons.inj h).1, hperiod] at hc
      cases hc
    exact outcomes_periodAtEnd.trans (if_neg hne)
  rw [word, flatMap_outcomes_run hword hrun]
  by_cases hlength : 3 ≤ (after.takeWhile isPeriodWord).length
  · rw [if_pos hlength]
    refine outcomes_periodAtEnd.trans ?_
    by_cases htail : after.dropWhile isPeriodWord = ['.']
    · rw [if_pos htail, if_pos ⟨hlength, htail⟩, htail]
    · rw [if_neg htail, if_neg fun h => htail h.2]
  · rw [if_neg hlength, if_neg fun h => hlength h.1]

theorem isClosingWord_iff (l : List Char) :
    isClosingWord l = true ↔ 3 ≤ ((l.dropWhile (· == ' ')).takeWhile isPeriodWord).length ∧
      (l.dropWhile (· == ' ')).dropWhile isPeriodWord = ['.'] := by
  rw [isClosingWord, Bool.and_eq_true, decide_eq_true_eq, beq_iff_eq]

theorem eq_of_isClosingWord {l : List Char} (h : isClosingWord l = true) :
    l = (l.takeWhile (· == ' ') ++ (l.dropWhile (· == ' ')).takeWhile isPeriodWord) ++ ['.'] := by
  rw [List.append_assoc, ← ((isClosingWord_iff l).mp h).2, List.takeWhile_append_dropWhile,
    List.takeWhile_append_dropWhile]

theorem matchAt?_period (before after : List Char) :
    periodPattern.matchAt? ⟨before, after⟩ =
      if isClosingWord after then some ⟨before.reverse, some after.dropLast, []⟩ else none := by
  have hspace : isPeriodWord ' ' = false := by decide
  rw [matchAt?, periodPattern, outcomes, flatMap_outcomes_group, outcomes, List.flatMap_assoc]
  refine (congrArg _ (congrArg _ (flatMap_spaces (fun before rest => ?_)))).trans ?_
  · rw [flatMap_words]
    simp [hspace]
  rw [flatMap_words]
  by_cases h : isClosingWord after = true
  · have hword := (isClosingWord_iff after).mp h
    rw [if_pos h, if_pos hword, ← List.append_assoc, ← List.reverse_append]
    have hafter := eq_of_isClosingWord h
    have hlast : after.dropLast = after.takeWhile (· == ' ') ++
        (after.dropWhile (· == ' ')).takeWhile isPeriodWord := by
      rw [hafter, List.dropLast_concat, ← hafter]
    rw [hlast]
    exact congrArg (fun l => some (Match.mk before.reverse (some l) []))
      (since_reverse_append _ before ['.'])
  · rw [if_neg h, if_neg (mt (isClosingWord_iff after).mpr h)]
    rfl

/-- What follows the inner text of brackets: an optional closing bracket at the end. -/
theorem outcomes_closing :
    closingAtEnd.outcomes ⟨⟨before, after⟩, opened, held⟩ =
      if after = [] then [⟨⟨before, []⟩, opened, held⟩]
      else if after = [']'] then [⟨⟨']' :: before, []⟩, opened, held⟩] else [] := by
  rw [closingAtEnd, outcomes, outcomes_optional, outcomes_one (contains_single ']')]
  cases after with
  | nil => simp [outcomes_textEnd]
  | cons c rest =>
    by_cases hc : c = ']'
    · subst hc
      cases rest <;> simp [outcomes_textEnd]
    · simp [outcomes_textEnd, hc]

theorem outcomes_inner :
    (seq (group (some 1) inner) closingAtEnd).outcomes ⟨⟨before, after⟩, opened, held⟩ =
      if 1 ≤ (after.takeWhile (!isBracket ·)).length then
        closingAtEnd.outcomes
          ⟨⟨(after.takeWhile (!isBracket ·)).reverse ++ before, after.dropWhile (!isBracket ·)⟩,
            before.length, some (after.takeWhile (!isBracket ·))⟩
      else [] := by
  have hinner : (group none (one (.compl bracketSet))).outcomes = takeOne (!isBracket ·) := by
    rw [outcomes_group_none]
    exact outcomes_one fun c => congrArg (!·) (contains_bracketSet c)
  have hrun : ∀ c before' rest, (!isBracket c) = true →
      closingAtEnd.outcomes (Stage.closeGroup ⟨⟨before', c :: rest⟩, before.length, held⟩) =
        [] := by
    intro c before' rest hc
    have hne : ¬ c :: rest = [']'] := by
      intro h
      rw [(List.cons.inj h).1] at hc
      cases hc
    refine outcomes_closing.trans ?_
    rw [if_neg (List.cons_ne_nil c rest), if_neg hne]
  rw [outcomes, flatMap_outcomes_group]
  refine (flatMap_outcomes_run hinner hrun).trans ?_
  by_cases hlength : 1 ≤ (after.takeWhile (!isBracket ·)).length
  · rw [if_pos hlength, if_pos hlength]
    exact congrArg _ (closeGroup_reverse_append (after.takeWhile (!isBracket ·)) before
      (after.dropWhile (!isBracket ·)) held)
  · rw [if_neg hlength, if_neg hlength]

def afterOpening : List Char → List Char
  | '[' :: rest => rest
  | l => l

/-- Whether what lies before the first bracket is not empty and ends the text but for a closing
bracket. -/
def isInner (l : List Char) : Bool :=
  !(l.takeWhile (!isBracket ·)).isEmpty &&
    (l.dropWhile (!isBracket ·) == [] || l.dropWhile (!isBracket ·) == [']'])

theorem isInner_iff (l : List Char) :
    isInner l = true ↔ 1 ≤ (l.takeWhile (!isBracket ·)).length ∧
      (l.dropWhile (!isBracket ·) = [] ∨ l.dropWhile (!isBracket ·) = [']']) := by
  simp [isInner, Nat.one_le_iff_ne_zero]

theorem head?_outcomes_inner (start : List Char) :
    ((seq (group (some 1) inner) closingAtEnd).outcomes
        ⟨⟨before, after⟩, opened, held⟩).head?.map
          (fun s => Match.mk start s.group s.place.after) =
      if isInner after then some ⟨start, some (after.takeWhile (!isBracket ·)), []⟩ else none := by
  rw [outcomes_inner]
  by_cases hlength : 1 ≤ (after.takeWhile (!isBracket ·)).length
  · rw [if_pos hlength, outcomes_closing]
    by_cases hend : after.dropWhile (!isBracket ·) = []
    · rw [if_pos hend, if_pos ((isInner_iff after).mpr ⟨hlength, .inl hend⟩)]
      rfl
    · rw [if_neg hend]
      by_cases hclosing : after.dropWhile (!isBracket ·) = [']']
      · rw [if_pos hclosing, if_pos ((isInner_iff after).mpr ⟨hlength, .inr hclosing⟩)]
        rfl
      · rw [if_neg hclosing, if_neg fun h => ((isInner_iff after).mp h).2.elim hend hclosing]
        rfl
  · rw [if_neg hlength, if_neg fun h => hlength ((isInner_iff after).mp h).1]
    rfl

theorem afterOpening_of_ne {l : List Char} (h : ∀ rest, l ≠ '[' :: rest) : afterOpening l = l := by
  rw [afterOpening]
  exact h

theorem exists_flatMap_opening {k : Stage → List Stage} (before after : List Char)
    (hk : ∀ before rest, k ⟨⟨before, '[' :: rest⟩, opened, held⟩ = []) :
    ∃ before', ((times (one (.single '[')) 0 (some 1) true).outcomes
        ⟨⟨before, after⟩, opened, held⟩).flatMap k =
      k ⟨⟨before', afterOpening after⟩, opened, held⟩ := by
  rw [outcomes_optional, outcomes_one (contains_single '[')]
  cases after with
  | nil => exact ⟨before, by simp [afterOpening]⟩
  | cons c rest =>
    by_cases hc : c = '['
    · subst hc
      exact ⟨'[' :: before, by simp [afterOpening, hk]⟩
    · have hopening : afterOpening (c :: rest) = c :: rest :=
        afterOpening_of_ne fun rest' h => hc (List.cons.inj h).1
      exact ⟨before, by simp [hopening, hc]⟩

theorem matchAt?_bracket_start (l : List Char) :
    bracketPattern.matchAt? ⟨[], l⟩ =
      if isInner (afterOpening l) then
        some ⟨[], some ((afterOpening l).takeWhile (!isBracket ·)), []⟩
      else none := by
  have hstart : (assertion .textStart).outcomes ⟨⟨[], l⟩, 0, none⟩ = [⟨⟨[], l⟩, 0, none⟩] := rfl
  have hbracket : ∀ before rest, (seq (group (some 1) inner) closingAtEnd).outcomes
      ⟨⟨before, '[' :: rest⟩, 0, none⟩ = [] := by
    intro before rest
    rw [outcomes_inner]
    rfl
  obtain ⟨before', hopening⟩ := exists_flatMap_opening [] l hbracket
  rw [matchAt?, bracketPattern, outcomes, hstart, List.flatMap_singleton, outcomes, hopening]
  exact head?_outcomes_inner []

theorem matchAt?_bracket_cons (c : Char) (before after : List Char) :
    bracketPattern.matchAt? ⟨c :: before, after⟩ = none := by
  simp [matchAt?, bracketPattern, outcomes, Assertion.holds]

/-! ## The rules -/

theorem apply_mark (s : String) :
    (Filter.ofPattern markPattern).apply s = String.ofList (dropMark s.toList) := by
  rw [apply_ofPattern rfl]
  refine congrArg String.ofList (replaceFirst_eq (fun _ => []) (fun before after => ?_) rfl rfl
    (fun c rest => rfl) [] s.toList)
  rw [matchAt?_mark]
  by_cases h : isClosingMark after = true
  · simp [h, Match.text]
  · simp [h]

theorem apply_period (s : String) :
    (Filter.ofPattern periodPattern).apply s = String.ofList (dropPeriod s.toList) := by
  rw [apply_ofPattern rfl]
  refine congrArg String.ofList (replaceFirst_eq List.dropLast (fun before after => ?_) rfl rfl
    (fun c rest => rfl) [] s.toList)
  rw [matchAt?_period]
  by_cases h : isClosingWord after = true
  · simp [h, Match.text]
  · simp [h]

def beforeClosing (l : List Char) : List Char :=
  if l.getLast? == some ']' then l.dropLast else l

theorem beforeClosing_cases (l : List Char) :
    l = beforeClosing l ++ [']'] ∨ (l = beforeClosing l ∧ l.getLast? ≠ some ']') := by
  by_cases h : l.getLast? = some ']'
  · have hl : beforeClosing l = l.dropLast := by simp [beforeClosing, h]
    rw [hl]
    exact .inl (List.dropLast_append_getLast? _ h).symm
  · exact .inr ⟨by simp [beforeClosing, h], h⟩

theorem isInner_of_beforeClosing {l : List Char} (hne : beforeClosing l ≠ [])
    (hinner : ∀ c ∈ beforeClosing l, isBracket c = false) :
    isInner l = true ∧ l.takeWhile (!isBracket ·) = beforeClosing l := by
  have hall : ∀ c ∈ beforeClosing l, (!isBracket c) = true := fun c hc => by rw [hinner c hc]; rfl
  obtain ⟨tail, htail, hl⟩ : ∃ tail, (tail = [] ∨ tail = [']']) ∧ l = beforeClosing l ++ tail := by
    rcases beforeClosing_cases l with h | ⟨h, -⟩
    · exact ⟨[']'], .inr rfl, h⟩
    · exact ⟨[], .inl rfl, by rw [List.append_nil]; exact h⟩
  have htake : l.takeWhile (!isBracket ·) = beforeClosing l := by
    rw [hl, List.takeWhile_append_of_pos hall, ← hl]
    rcases htail with rfl | rfl <;> simp [isBracket]
  have hdrop : l.dropWhile (!isBracket ·) = tail := by
    have hsplit := List.takeWhile_append_dropWhile (p := (!isBracket ·)) (l := l)
    rw [htake] at hsplit
    exact List.append_cancel_left (hsplit.trans hl)
  refine ⟨(isInner_iff l).mpr ⟨?_, hdrop ▸ htail⟩, htake⟩
  rw [htake]
  exact List.length_pos_iff.mpr hne

theorem beforeClosing_of_isInner {l : List Char} (h : isInner l = true) :
    beforeClosing l = l.takeWhile (!isBracket ·) := by
  obtain ⟨-, htail⟩ := (isInner_iff l).mp h
  have hl := List.takeWhile_append_dropWhile (p := (!isBracket ·)) (l := l)
  rcases htail with htail | htail
  · rw [htail, List.append_nil] at hl
    rw [hl, beforeClosing, if_neg]
    intro hlast
    have hmem := List.mem_of_getLast? (beq_iff_eq.mp hlast)
    rw [← hl] at hmem
    cases List.mem_takeWhile_imp hmem
  · rw [htail] at hl
    have hlast : l.getLast? = some ']' := by
      rw [← congrArg List.getLast? hl, List.getLast?_concat]
    rw [beforeClosing, hlast, if_pos (beq_self_eq_true _), ← congrArg List.dropLast hl,
      List.dropLast_concat]

theorem unwrapBrackets_eq_beforeClosing (l : List Char) :
    unwrapBrackets l =
      if (beforeClosing (afterOpening l)).isEmpty || (beforeClosing (afterOpening l)).any isBracket
      then l else beforeClosing (afterOpening l) := by
  by_cases hopening : ∃ rest, l = '[' :: rest
  · obtain ⟨rest, rfl⟩ := hopening
    rfl
  · have hne : ∀ rest, l ≠ '[' :: rest := fun rest h => hopening ⟨rest, h⟩
    rw [unwrapBrackets, afterOpening_of_ne hne]
    · rfl
    · exact hne

theorem unwrapBrackets_eq (l : List Char) :
    unwrapBrackets l =
      if isInner (afterOpening l) then (afterOpening l).takeWhile (!isBracket ·) else l := by
  rw [unwrapBrackets_eq_beforeClosing]
  generalize afterOpening l = body
  simp only [Bool.or_eq_true, List.isEmpty_iff, List.any_eq_true]
  by_cases h : isInner body = true
  · rw [if_pos h, beforeClosing_of_isInner h, if_neg]
    rintro (hempty | ⟨c, hc, hbracket⟩)
    · have hlength := ((isInner_iff body).mp h).1
      simp [hempty] at hlength
    · have hout := List.mem_takeWhile_imp hc
      simp [hbracket] at hout
  · rw [if_neg h, if_pos]
    by_contra hnone
    rw [not_or] at hnone
    refine h (isInner_of_beforeClosing hnone.1 fun c hc => ?_).1
    exact Bool.eq_false_iff.mpr fun hbracket => hnone.2 ⟨c, hc, hbracket⟩

theorem findSome?_bracket_cons (c : Char) (before after : List Char) :
    (Place.onwards (c :: before) after).findSome? bracketPattern.matchAt? = none := by
  induction after generalizing c before with
  | nil => simp [Place.onwards, matchAt?_bracket_cons]
  | cons d rest ih => simp [Place.onwards, matchAt?_bracket_cons, ih]

theorem apply_bracket (s : String) :
    (Filter.ofPattern bracketPattern).apply s = String.ofList (unwrapBrackets s.toList) := by
  rw [apply_ofPattern rfl, unwrapBrackets_eq]
  by_cases h : isInner (afterOpening s.toList) = true
  · rw [if_pos h, replaceFirst_of_match]
    rw [matchAt?_bracket_start, if_pos h]
    simp [Match.text]
  · rw [if_neg h]
    have hnone := matchAt?_bracket_start s.toList
    rw [if_neg h] at hnone
    cases hs : s.toList with
    | nil =>
      rw [hs] at hnone
      simp [replaceFirst, Place.onwards, hnone]
    | cons c rest =>
      rw [hs] at hnone
      simp [replaceFirst, Place.onwards, hnone, findSome?_bracket_cons]

/-- The rules do what the patterns say. -/
theorem byPatterns?_eq (s : String) : byPatterns? s = some (trimPunctuation s) := by
  have hrules : (Filter.ofPattern bracketPattern).apply
      ((Filter.ofPattern periodPattern).apply ((Filter.ofPattern markPattern).apply s)) =
        String.ofList (unwrapBrackets (dropPeriod (dropMark s.toList))) := by
    simp only [apply_mark, apply_period, apply_bracket, String.toList_ofList]
  have hperiod : ∀ l : List Char, String.ofList l = "." ↔ (l == ['.']) = true := by
    intro l
    rw [← String.toList_inj, String.toList_ofList, beq_iff_eq]
    rfl
  rw [byPatterns?, mapM_ofText?_patterns, Option.bind_eq_bind, Option.bind_some]
  simp only [List.foldl_cons, List.foldl_nil, hrules, String.toList_ofList, hperiod]
  rw [trimPunctuation, trimPunctuationList]
  split <;> rfl

end MarcHarvest.Text
