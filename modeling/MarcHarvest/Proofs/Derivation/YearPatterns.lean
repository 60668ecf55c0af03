import MarcHarvest.Proofs.Derivation.YearSigns
import MarcHarvest.Proofs.Pattern.Matches
import MarcHarvest.Proofs.Text.TrailingPatterns

/-!
# Years in texts by patterns

The years in a text are usually found by two patterns. One finds decades, three digits at the start
of a word with a mark for the unknown digit, and every mark that it finds gives way to `x`. The
other finds the years in the text that results. That is what the two passes over a text do
(`yearsByPatterns?_eq`).

At a place both patterns ask only for the characters that follow and for the word, if any, that the
place is in (`matchAt?_decade`, `matchAt?_year`). So each pass goes through the text character by
character, as the search does, and a match takes it to the end of what is found.
-/

namespace MarcHarvest.PublicationDate

open Pattern Text Unicode

/-! ## The patterns -/

def wordEdge : Pattern := assertion (.word .boundary false)

def digitSet : CharSet := .union .none (.range '0' '9')

def unknownMarkSet : CharSet :=
  .union (.union (.union (.union .none (.single '-')) (.single '?')) (.single 'u')) (.single '|')

def yearDigitSet : CharSet := .union (.union .none (.range '0' '9')) (.single 'x')

/-- Three digits at the edge of a word, and an unknown mark. -/
def decadePattern : Pattern :=
  seq wordEdge (seq (times (group none (one digitSet)) 3 (some 3) true)
    (group none (one unknownMarkSet)))

/-- Three or four digits of a year between edges of words. -/
def yearPattern : Pattern :=
  seq wordEdge (seq (times (group none (one yearDigitSet)) 3 (some 4) true) wordEdge)

def decadeText : String := "\\b[0-9]\x7b3\x7d[-?u|]"

def yearText : String := "\\b[0-9x]\x7b3,4\x7d\\b"

theorem ofText?_decadeText :
    Filter.ofText? decadeText = some (Filter.ofPattern decadePattern) := rfl

theorem ofText?_yearText : Filter.ofText? yearText = some (Filter.ofPattern yearPattern) := rfl

/-- A found decade with `x` for its mark. -/
def writeUnknown (l : List Char) : List Char := l.map fun c => if isUnknownMark c then 'x' else c

/-- The years in a text by patterns: in one pass the marks of decades are rewritten, and in a second
pass the years are found. -/
def yearsByPatterns? (text : List Char) : Option (List (List Char)) := do
  let decade ← Filter.ofText? decadeText
  let year ← Filter.ofText? yearText
  return year.findAll (decade.replaceAll writeUnknown text)

/-! ## Kinds of characters -/

theorem contains_digitSet (c : Char) : digitSet.contains c = c.isDigit := by
  simp [digitSet, CharSet.contains, ← contains_digit]

theorem contains_unknownMarkSet (c : Char) : unknownMarkSet.contains c = isUnknownMark c := by
  simp [unknownMarkSet, CharSet.contains, contains_single, isUnknownMark]

theorem contains_yearDigitSet (c : Char) : yearDigitSet.contains c = isYearDigit c := by
  simp [yearDigitSet, CharSet.contains, contains_single, isYearDigit, ← contains_digit]

theorem isWord_of_isDigit {c : Char} (h : c.isDigit) : isWord .v16 c := by
  have hascii : isAscii c := by
    have hhigh := (Char.isDigit_iff_toNat.mp h).2
    have hnine : '9'.toNat = 57 := rfl
    simp only [isAscii, decide_eq_true_eq]
    omega
  simp [isWord, hascii, Char.isAlphanum, h]

theorem isWord_of_isYearDigit {c : Char} (h : isYearDigit c) : isWord .v16 c := by
  rcases Bool.or_eq_true_iff.mp h with hdigit | hx
  · exact isWord_of_isDigit hdigit
  · rw [beq_iff_eq.mp hx]
    rfl

/-! ## Matches at a place -/

/-- Whether the nearest character of a text on one side of a place belongs to a word. -/
def meetsWord (l : List Char) : Bool := l.head?.any (isWord .v16)

@[simp] theorem meetsWord_nil : meetsWord [] = false := rfl

@[simp] theorem meetsWord_cons (c : Char) (l : List Char) : meetsWord (c :: l) = isWord .v16 c := rfl

variable {before after : List Char} {opened : Nat} {held : Option (List Char)}

theorem outcomes_wordEdge :
    wordEdge.outcomes ⟨⟨before, after⟩, opened, held⟩ =
      if meetsWord before = meetsWord after then [] else [⟨⟨before, after⟩, opened, held⟩] := by
  have hholds : (Assertion.word .boundary false).holds before.head? after.head? =
      (meetsWord before != meetsWord after) := rfl
  rw [wordEdge, outcomes, hholds]
  by_cases h : meetsWord before = meetsWord after <;> simp [h]

/-- Whether three digits that begin a word are at the start of `l`, and an unknown mark follows. -/
def opensDecade (inWord : Bool) : List Char → Bool
  | a :: b :: c :: m :: _ => !inWord && [a, b, c].all Char.isDigit && isUnknownMark m
  | _ => false

theorem exists_of_opensDecade {inWord : Bool} {l : List Char} (h : opensDecade inWord l) :
    ∃ a b c m rest, l = a :: b :: c :: m :: rest ∧ inWord = false ∧
      [a, b, c].all Char.isDigit ∧ isUnknownMark m := by
  unfold opensDecade at h
  split at h
  · next a b c m rest =>
    rw [Bool.and_eq_true, Bool.and_eq_true, Bool.not_eq_true'] at h
    exact ⟨a, b, c, m, rest, rfl, h.1.1, h.1.2, h.2⟩
  · cases h

theorem meetsWord_of_all_take {q : Char → Bool} (hq : ∀ c, q c → isWord .v16 c) {n : Nat}
    (hn : 0 < n) {l : List Char} (h : n ≤ l.length ∧ (l.take n).all q) : meetsWord l := by
  obtain ⟨n, rfl⟩ : ∃ k, n = k + 1 := ⟨n - 1, by omega⟩
  cases l with
  | nil => simp at h
  | cons c rest =>
    rw [List.take_succ_cons, List.all_cons, Bool.and_eq_true] at h
    exact hq c h.2.1

/-- At the start of digits, an edge of a word is where none ends. -/
theorem flatMap_wordEdge_exactly {q : Char → Bool} (hq : ∀ c, q c → isWord .v16 c) {n : Nat}
    (hn : 0 < n) (k : Stage → List Stage) :
    (wordEdge.outcomes ⟨⟨before, after⟩, opened, held⟩).flatMap
        (fun s => (exactly (takeOne q) n s).flatMap k) =
      if !meetsWord before && decide (n ≤ after.length) && (after.take n).all q then
        k ⟨⟨(after.take n).reverse ++ before, after.drop n⟩, opened, held⟩
      else [] := by
  rw [outcomes_wordEdge]
  by_cases h : n ≤ after.length ∧ (after.take n).all q
  · have hafter := meetsWord_of_all_take hq hn h
    cases hbefore : meetsWord before with
    | true => simp [hafter]
    | false => simp [hafter, exactly_takeOne, h]
  · have hnot : (decide (n ≤ after.length) && (after.take n).all q) = false := by
      simpa using h
    rw [Bool.and_assoc, hnot, Bool.and_false, if_neg Bool.false_ne_true]
    split
    · rfl
    · rw [List.flatMap_singleton, exactly_takeOne, if_neg h, List.flatMap_nil]

theorem matchAt?_decade (before after : List Char) :
    decadePattern.matchAt? ⟨before, after⟩ =
      if opensDecade (meetsWord before) after then some ⟨before.reverse, none, after.drop 4⟩
      else none := by
  have hdigit : (group none (one digitSet)).outcomes = takeOne Char.isDigit := by
    rw [outcomes_group_none, outcomes_one contains_digitSet]
  have hmark : (group none (one unknownMarkSet)).outcomes = takeOne isUnknownMark := by
    rw [outcomes_group_none, outcomes_one contains_unknownMarkSet]
  have hdigits : (seq (times (group none (one digitSet)) 3 (some 3) true)
      (group none (one unknownMarkSet))).outcomes =
        fun s => (exactly (takeOne Char.isDigit) 3 s).flatMap (takeOne isUnknownMark) := by
    funext s
    rw [outcomes, outcomes, hdigit, hmark]
    exact congrArg _ (List.flatMap_singleton' _)
  rw [matchAt?, decadePattern, outcomes, hdigits,
    flatMap_wordEdge_exactly (fun _ => isWord_of_isDigit) (by decide)]
  rcases after with _ | ⟨a, _ | ⟨b, _ | ⟨c, _ | ⟨m, rest⟩⟩⟩⟩
  · simp [opensDecade]
  · simp [opensDecade]
  · simp [opensDecade]
  · simp [opensDecade]
  · have hcond : (!meetsWord before && decide (3 ≤ (a :: b :: c :: m :: rest).length) &&
        ((a :: b :: c :: m :: rest).take 3).all Char.isDigit) =
          (!meetsWord before && [a, b, c].all Char.isDigit) := by simp
    rw [hcond, opensDecade]
    cases !meetsWord before && [a, b, c].all Char.isDigit with
    | false => simp
    | true => cases hm : isUnknownMark m <;> simp [hm]

theorem beginsYear_eq (n : Nat) (l : List Char) :
    beginsYear n l =
      (decide (n ≤ l.length) && (l.take n).all isYearDigit && !meetsWord (l.drop n)) := by
  have hlength : ((l.take n).length == n) = decide (n ≤ l.length) := by
    rw [Bool.eq_iff_iff, beq_iff_eq, decide_eq_true_eq, List.length_take]
    omega
  rw [beginsYear, hlength, meetsWord]

/-- Three digits of a year may be followed by a fourth, but then by no character of a word. -/
theorem yearAt?_three {a b c : Char} (h : [a, b, c].all isYearDigit) (tail : List Char) :
    yearAt? (a :: b :: c :: tail) =
      if meetsWord tail then
        if tail.head?.any isYearDigit && !meetsWord (tail.drop 1) then some (a :: b :: c :: tail.take 1)
        else none
      else some [a, b, c] := by
  have habc : isYearDigit a ∧ isYearDigit b ∧ isYearDigit c := by simpa using h
  obtain ⟨ha, hb, hc⟩ := habc
  cases tail with
  | nil => simp [yearAt?, beginsYear_eq, ha, hb, hc]
  | cons d rest =>
    cases hword : isWord .v16 d with
    | false =>
      have hd : isYearDigit d = false := by
        by_contra hd
        rw [isWord_of_isYearDigit (Bool.not_eq_false _ ▸ hd)] at hword
        cases hword
      simp [yearAt?, beginsYear_eq, ha, hb, hc, hd, hword]
    | true =>
      cases hd : isYearDigit d <;> cases hrest : meetsWord rest <;>
        simp [yearAt?, beginsYear_eq, ha, hb, hc, hd, hword, hrest]

theorem yearAt?_of_not {a b c : Char} (h : ¬ [a, b, c].all isYearDigit) (tail : List Char) :
    yearAt? (a :: b :: c :: tail) = none := by
  have hbegins : ∀ n, 3 ≤ n → beginsYear n (a :: b :: c :: tail) = false := by
    intro n hn
    rw [Bool.eq_false_iff, beginsYear_eq]
    intro hall
    rw [Bool.and_eq_true, Bool.and_eq_true, List.all_eq_true] at hall
    have hsub : [a, b, c] ⊆ (a :: b :: c :: tail).take n :=
      List.take_subset_take_left (a :: b :: c :: tail) hn
    exact h (List.all_eq_true.mpr fun d hd => hall.1.2 d (hsub hd))
  rw [yearAt?, hbegins 4 (by decide), hbegins 3 (by decide)]
  rfl

theorem matchAt?_year (before after : List Char) :
    yearPattern.matchAt? ⟨before, after⟩ =
      if meetsWord before then none
      else (yearAt? after).map fun run => ⟨before.reverse, none, after.drop run.length⟩ := by
  have hdigit : (group none (one yearDigitSet)).outcomes = takeOne isYearDigit := by
    rw [outcomes_group_none, outcomes_one contains_yearDigitSet]
  have hdigits : (seq (times (group none (one yearDigitSet)) 3 (some 4) true) wordEdge).outcomes =
      fun s => (exactly (takeOne isYearDigit) 3 s).flatMap
        fun s => (takeOne isYearDigit s ++ [s]).flatMap wordEdge.outcomes := by
    funext s
    rw [outcomes, outcomes, hdigit, List.flatMap_assoc]
    simp [upTo, prefer]
  rw [matchAt?, yearPattern, outcomes, hdigits,
    flatMap_wordEdge_exactly (fun _ => isWord_of_isYearDigit) (by decide)]
  cases hbefore : meetsWord before with
  | true => simp
  | false =>
    rcases after with _ | ⟨a, _ | ⟨b, _ | ⟨c, tail⟩⟩⟩
    · simp [yearAt?, beginsYear]
    · simp [yearAt?, beginsYear]
    · simp [yearAt?, beginsYear]
    · have htake : (a :: b :: c :: tail).take 3 = [a, b, c] := rfl
      rw [htake]
      by_cases h : [a, b, c].all isYearDigit
      · have hc : isWord .v16 c := isWord_of_isYearDigit (List.all_eq_true.mp h c (by simp))
        rw [yearAt?_three h, h]
        cases tail with
        | nil => simp [outcomes_wordEdge, hc]
        | cons d rest =>
          cases hd : isYearDigit d with
          | true =>
            have hword := isWord_of_isYearDigit hd
            cases hrest : meetsWord rest <;> simp [outcomes_wordEdge, hc, hd, hword, hrest]
          | false => cases hword : isWord .v16 d <;> simp [outcomes_wordEdge, hc, hd, hword]
      · rw [yearAt?_of_not h, Bool.eq_false_iff.mpr h]
        simp

/-! ## Years at a place -/

def isYear (l : List Char) : Bool := (l.length == 3 || l.length == 4) && l.all isYearDigit

theorem isYear_iff {l : List Char} :
    isYear l ↔ (l.length = 3 ∨ l.length = 4) ∧ ∀ c ∈ l, isYearDigit c := by
  rw [isYear, Bool.and_eq_true, Bool.or_eq_true, beq_iff_eq, beq_iff_eq, List.all_eq_true]

theorem isWord_of_isYear {l : List Char} (h : isYear l) : ∀ c ∈ l, isWord .v16 c :=
  fun c hc => isWord_of_isYearDigit ((isYear_iff.mp h).2 c hc)

theorem beginsYear_iff {n : Nat} {l : List Char} :
    beginsYear n l ↔ ∃ run rest, l = run ++ rest ∧ run.length = n ∧ (∀ c ∈ run, isYearDigit c) ∧
      meetsWord rest = false := by
  rw [beginsYear_eq, Bool.and_eq_true, Bool.and_eq_true, decide_eq_true_eq, List.all_eq_true,
    Bool.not_eq_true']
  constructor
  · rintro ⟨⟨hlength, hdigits⟩, hrest⟩
    exact ⟨l.take n, l.drop n, (List.take_append_drop n l).symm, by simpa using hlength, hdigits,
      hrest⟩
  · rintro ⟨run, rest, rfl, rfl, hdigits, hrest⟩
    rw [List.take_left, List.drop_left, List.length_append]
    exact ⟨⟨Nat.le_add_right .., hdigits⟩, hrest⟩

/-- A year that begins at a place is all of the word that begins there. -/
theorem yearAt?_eq_some_iff {l run : List Char} :
    yearAt? l = some run ↔ isYear run ∧ ∃ rest, l = run ++ rest ∧ meetsWord rest = false := by
  constructor
  · intro h
    have hbegins : ∀ n, (n = 3 ∨ n = 4) → beginsYear n l → l.take n = run →
        isYear run ∧ ∃ rest, l = run ++ rest ∧ meetsWord rest = false := by
      rintro n hn hbegins htake
      obtain ⟨run', rest, rfl, rfl, hdigits, hrest⟩ := beginsYear_iff.mp hbegins
      rw [List.take_left] at htake
      subst htake
      exact ⟨isYear_iff.mpr ⟨hn, hdigits⟩, rest, rfl, hrest⟩
    rw [yearAt?] at h
    split at h
    · next hfour => exact hbegins 4 (.inr rfl) hfour (Option.some.inj h)
    · split at h
      · next hthree => exact hbegins 3 (.inl rfl) hthree (Option.some.inj h)
      · cases h
  · rintro ⟨hyear, rest, rfl, hrest⟩
    obtain ⟨hlength, hdigits⟩ := isYear_iff.mp hyear
    have hbegins : beginsYear run.length (run ++ rest) :=
      beginsYear_iff.mpr ⟨run, rest, rfl, rfl, hdigits, hrest⟩
    rcases hlength with hlength | hlength <;> rw [hlength] at hbegins
    · have hfour : ¬ beginsYear 4 (run ++ rest) := by
        intro hfour
        obtain ⟨run', rest', hsame, hlength', hdigits', -⟩ := beginsYear_iff.mp hfour
        cases rest with
        | nil =>
          have hlengths := congrArg List.length hsame
          simp only [List.length_append, List.length_nil] at hlengths
          omega
        | cons d more =>
          -- the fourth digit would be the character after the run
          rw [List.append_cons] at hsame
          obtain ⟨rfl, -⟩ := List.append_inj hsame (by simp [hlength, hlength'])
          rw [meetsWord_cons, isWord_of_isYearDigit (hdigits' d (by simp))] at hrest
          cases hrest
      rw [yearAt?, if_neg hfour, if_pos hbegins, ← hlength, List.take_left]
    · rw [yearAt?, if_pos hbegins, ← hlength, List.take_left]

/-! ## Both passes -/

theorem markUnknown_of_opensDecade {a b c m : Char} {rest : List Char} {inWord : Bool}
    (h : opensDecade inWord (a :: b :: c :: m :: rest)) :
    markUnknown inWord (a :: b :: c :: m :: rest) =
      a :: b :: c :: 'x' :: markUnknown (isWord .v16 m) rest := by
  rw [markUnknown]
  exact if_pos h

theorem markUnknown_cons_of_not {a : Char} {l : List Char} {inWord : Bool}
    (h : ¬ opensDecade inWord (a :: l)) :
    markUnknown inWord (a :: l) = a :: markUnknown (isWord .v16 a) l := by
  rcases l with _ | ⟨b, _ | ⟨c, _ | ⟨m, rest⟩⟩⟩
  · rfl
  · rfl
  · rfl
  · rw [markUnknown]
    exact if_neg h

theorem replaced_cutFrom_decade (before after : List Char) :
    (cutFrom (decadePattern.compile 0).toArray before after).replaced writeUnknown =
      markUnknown (meetsWord before) after := by
  by_cases h : opensDecade (meetsWord before) after
  · obtain ⟨a, b, c, m, rest, rfl, -, hdigits, hm⟩ := exists_of_opensDecade h
    have hmatch := matchAt?_decade before ([a, b, c, m] ++ rest)
    rw [if_pos (by exact h)] at hmatch
    have hcut := cutFrom_of_match rfl (List.cons_ne_nil a [b, c, m]) hmatch
    have hwrite : writeUnknown [a, b, c, m] = [a, b, c, 'x'] :=
      Checked.map_isUnknownMark hdigits hm
    have hrest := replaced_cutFrom_decade (m :: c :: b :: a :: before) rest
    rw [markUnknown_of_opensDecade h, ← meetsWord_cons m, ← hrest]
    refine (congrArg _ hcut).trans ?_
    rw [Cut.replaced_cutOff, hwrite]
    rfl
  · have hmatch := matchAt?_decade before after
    rw [if_neg h] at hmatch
    cases after with
    | nil => rw [cutFrom_nil]; rfl
    | cons c rest =>
      rw [cutFrom_of_no_match rfl rfl hmatch, Cut.replaced_passOver,
        replaced_cutFrom_decade (c :: before) rest, markUnknown_cons_of_not h, meetsWord_cons]
termination_by after.length

theorem yearRuns_append_of_word {w : List Char} (h : ∀ c ∈ w, isWord .v16 c) (rest : List Char) :
    yearRuns true (w ++ rest) = yearRuns true rest := by
  induction w with
  | nil => rfl
  | cons c w ih =>
    rw [List.cons_append, yearRuns, if_pos rfl, List.nil_append, h c List.mem_cons_self,
      ih fun d hd => h d (List.mem_cons_of_mem c hd)]

theorem meetsWord_reverse_append {w : List Char} (hne : w ≠ []) (h : ∀ c ∈ w, isWord .v16 c)
    (before : List Char) : meetsWord (w.reverse ++ before) = true := by
  obtain ⟨c, rest, hrev⟩ := List.exists_cons_of_ne_nil (mt List.reverse_eq_nil_iff.mp hne)
  rw [hrev, List.cons_append, meetsWord_cons]
  exact h c (List.mem_reverse.mp (hrev ▸ List.mem_cons_self))

theorem found_cutFrom_year (before after : List Char) :
    (cutFrom (yearPattern.compile 0).toArray before after).found =
      yearRuns (meetsWord before) after := by
  have hmatch := matchAt?_year before after
  by_cases h : meetsWord before = false ∧ ∃ run, yearAt? after = some run
  · obtain ⟨hbefore, run, hrun⟩ := h
    obtain ⟨hyear, rest, rfl, -⟩ := yearAt?_eq_some_iff.mp hrun
    obtain ⟨c, more, rfl⟩ : ∃ c more, run = c :: more := by
      cases run with
      | nil => cases hyear
      | cons c more => exact ⟨c, more, rfl⟩
    rw [hbefore, if_neg Bool.false_ne_true, hrun, Option.map_some, List.drop_left] at hmatch
    have hwords := isWord_of_isYear hyear
    have hlast := meetsWord_reverse_append (List.cons_ne_nil c more) hwords before
    rw [cutFrom_of_match rfl (List.cons_ne_nil c more) hmatch, Cut.found_cutOff,
      found_cutFrom_year ((c :: more).reverse ++ before) rest, hlast, hbefore, List.cons_append,
      yearRuns, ← List.cons_append, hrun, hwords c List.mem_cons_self,
      yearRuns_append_of_word fun d hd => hwords d (List.mem_cons_of_mem c hd)]
    rfl
  · have hnone : yearPattern.matchAt? ⟨before, after⟩ = none ∧
        (if meetsWord before then [] else (yearAt? after).toList) = [] := by
      rw [hmatch]
      cases hbefore : meetsWord before with
      | true => exact ⟨rfl, rfl⟩
      | false =>
        cases hrun : yearAt? after with
        | none => exact ⟨rfl, rfl⟩
        | some run => exact absurd ⟨hbefore, run, hrun⟩ h
    cases after with
    | nil => rw [cutFrom_nil]; rfl
    | cons c rest =>
      rw [cutFrom_of_no_match rfl rfl hnone.1, Cut.found_passOver,
        found_cutFrom_year (c :: before) rest, yearRuns, hnone.2, List.nil_append, meetsWord_cons]
termination_by after.length

theorem yearsByPatterns?_eq (text : List Char) :
    yearsByPatterns? text = some (yearRuns false (markUnknown false text)) := by
  have hmark : (Filter.ofPattern decadePattern).replaceAll writeUnknown text =
      markUnknown false text := replaced_cutFrom_decade [] text
  have hyears : ∀ l, (Filter.ofPattern yearPattern).findAll l = yearRuns false l :=
    found_cutFrom_year []
  rw [yearsByPatterns?, ofText?_decadeText, ofText?_yearText, Option.bind_eq_bind,
    Option.bind_some, Option.bind_some, hmark, hyears]
  rfl

end MarcHarvest.PublicationDate
