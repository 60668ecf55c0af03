import MarcHarvest.Proofs.Text.Punctuation

/-!
# What trimming leaves of a text

Nothing is left of a text just if, without its mark, it has no characters but blanks and one period,
with brackets around them or not (`trimPunctuation_eq_empty_iff`). A short word before a final period
is left with its period, but for one case: a comma counts among the characters of words, so a comma in
front of the word can make it long enough to lose the period (`trimPunctuation_abbreviation`).
-/

namespace MarcHarvest.Text

open Unicode

/-! ## Classes of characters -/

theorem isPeriodWord_of_isBlank {c : Char} (h : isBlank c = true) : isPeriodWord c = false := by
  have hall : ∀ n, n < 33 → isPeriodWord (Char.ofNat n) = false := by decide
  rw [isBlank, decide_eq_true_eq] at h
  have hc := hall c.toNat (by omega)
  rwa [Char.ofNat_toNat] at hc

theorem isBracket_iff (c : Char) : isBracket c = true ↔ c = '[' ∨ c = ']' := by
  simp [isBracket]

theorem isBlank_of_isBracket {c : Char} (h : isBracket c = true) : isBlank c = false := by
  rcases (isBracket_iff c).mp h with rfl | rfl <;> rfl

theorem isPeriodWord_of_isBracket {c : Char} (h : isBracket c = true) : isPeriodWord c = false := by
  rcases (isBracket_iff c).mp h with rfl | rfl <;> decide

/-! ## Texts of which nothing is left -/

/-- Blanks, with at most one period between them. -/
def Bare (l : List Char) : Prop :=
  ∃ before after, (∀ c ∈ before ++ after, isBlank c = true) ∧
    (l = before ++ after ∨ l = before ++ '.' :: after)

/-- Whether a text without its mark is empty, or bare between brackets that may be missing. -/
def Hollow (l : List Char) : Prop :=
  cutMark l = [] ∨ ∃ inner, Bare inner ∧ Bracketed (cutMark l) inner

theorem bare_iff (l : List Char) : Bare l ↔ trimBlanks l = [] ∨ trimBlanks l = ['.'] := by
  constructor
  · rintro ⟨before, after, hall, hl⟩
    have hbefore : ∀ c ∈ before, isBlank c = true := fun c hc => hall c (List.mem_append_left _ hc)
    have hafter : ∀ c ∈ after, isBlank c = true := fun c hc => hall c (List.mem_append_right _ hc)
    rcases hl with rfl | rfl
    · left
      exact trimBlanks_around (l := []) hbefore hafter (by simp) (by simp)
    · right
      exact trimBlanks_around (l := ['.']) hbefore hafter (by simp [isBlank]) (by simp [isBlank])
  · rintro (h | h)
    · refine ⟨l, [], fun c hc => ?_, .inl (List.append_nil l).symm⟩
      by_contra hblank
      have hmem := mem_trimBlanks (by simpa using hc) (Bool.eq_false_iff.mpr hblank)
      simp [h] at hmem
    · refine ⟨l.takeWhile isBlank, (l.dropWhile isBlank).rtakeWhile isBlank, fun c hc => ?_, .inr ?_⟩
      · rcases List.mem_append.mp hc with hc | hc
        · exact List.mem_takeWhile_imp hc
        · exact List.mem_rtakeWhile_imp hc
      · rw [trimBlanks_eq_rdropWhile] at h
        have hsplit := List.rdropWhile_append_rtakeWhile (p := isBlank) (l := l.dropWhile isBlank)
        rw [h, List.singleton_append] at hsplit
        rw [hsplit, List.takeWhile_append_dropWhile]

theorem Bare.isBlank_or_eq {l : List Char} (h : Bare l) {c : Char} (hc : c ∈ l) :
    isBlank c = true ∨ c = '.' := by
  obtain ⟨before, after, hall, rfl | rfl⟩ := h
  · exact .inl (hall c hc)
  · by_cases hperiod : c = '.'
    · exact .inr hperiod
    · exact .inl (hall c (by simpa [hperiod] using hc))

theorem Bare.not_isPeriodWord {l : List Char} (h : Bare l) {c : Char} (hc : c ∈ l) :
    isPeriodWord c = false := by
  rcases h.isBlank_or_eq hc with hblank | rfl
  · exact isPeriodWord_of_isBlank hblank
  · decide

theorem Bare.not_isBracket {l : List Char} (h : Bare l) {c : Char} (hc : c ∈ l) :
    isBracket c = false := by
  rcases h.isBlank_or_eq hc with hblank | rfl
  · by_contra hbracket
    rw [isBlank_of_isBracket (Bool.not_eq_false _ ▸ hbracket)] at hblank
    cases hblank
  · rfl

theorem mem_cutBrackets {l : List Char} {c : Char} (hc : c ∈ l) (h : isBracket c = false) :
    c ∈ cutBrackets l := by
  rw [cutBrackets]
  split
  · exact List.mem_filter.mpr ⟨hc, by rw [h]; rfl⟩
  · exact hc

theorem bare_cutBrackets_iff (l : List Char) :
    Bare (cutBrackets l) ↔ l = [] ∨ ∃ inner, Bare inner ∧ Bracketed l inner := by
  by_cases h : ∃ inner, Bracketed l inner
  · obtain ⟨inner, hinner⟩ := h
    rw [cutBrackets_of_bracketed hinner]
    constructor
    · intro hbare
      exact .inr ⟨inner, hbare, hinner⟩
    · rintro (rfl | ⟨other, hbare, hother⟩)
      · exact absurd (List.infix_nil.mp hinner.isInfix) hinner.ne_nil
      · rwa [← hinner.filter_eq, hother.filter_eq]
  · have hnone : ∀ inner, ¬ Bracketed l inner := fun inner hinner => h ⟨inner, hinner⟩
    rw [cutBrackets_eq_self hnone]
    constructor
    · intro hbare
      by_cases hnil : l = []
      · exact .inl hnil
      · exact .inr ⟨l, hbare, hnil, fun c hc => hbare.not_isBracket hc, by simp⟩
    · rintro (rfl | ⟨inner, -, hinner⟩)
      · exact ⟨[], [], by simp, .inl rfl⟩
      · exact absurd hinner (hnone inner)

/-- Where the period goes, a word stays: the period makes no difference to texts that vanish. -/
theorem bare_cutPeriod_iff (l : List Char) :
    Bare (cutBrackets (cutPeriod l)) ↔ Bare (cutBrackets l) := by
  by_cases h : EndsInWord l
  · obtain ⟨first, a, b, c, rfl, ha, hb, hc⟩ := h
    have hbracket : isBracket a = false := by
      by_contra hbracket
      rw [isPeriodWord_of_isBracket (Bool.not_eq_false _ ▸ hbracket)] at ha
      cases ha
    have hword : ∀ m, a ∈ m → ¬ Bare (cutBrackets m) := by
      intro m hm hbare
      rw [hbare.not_isPeriodWord (mem_cutBrackets hm hbracket)] at ha
      cases ha
    have hcut : cutPeriod (first ++ [a, b, c, '.']) = first ++ [a, b, c] := by
      simp [cutPeriod, ha, hb, hc]
    rw [hcut]
    exact iff_of_false (hword _ (by simp)) (hword _ (by simp))
  · rw [cutPeriod_eq_self h]

/-- Nothing is left of the hollow texts, and of no others. -/
theorem trimPunctuation_eq_empty_iff (s : String) : trimPunctuation s = "" ↔ Hollow s.toList := by
  have hlist : trimPunctuation s = "" ↔ cutPunctuation s.toList = [] := by
    rw [← String.toList_inj, trimPunctuation, String.toList_ofList, trimPunctuationList_eq]
    rfl
  have hrules : cutPunctuation s.toList = [] ↔ Bare (cutBrackets (cutPeriod (cutMark s.toList))) := by
    rw [bare_iff, cutPunctuation, ← trimBlanks_eq_rdropWhile]
    by_cases h : trimBlanks (cutBrackets (cutPeriod (cutMark s.toList))) = ['.'] <;> simp [h]
  rw [hlist, hrules, bare_cutPeriod_iff, bare_cutBrackets_iff, Hollow]

instance (l : List Char) : Decidable (Hollow l) :=
  decidable_of_iff (trimPunctuation (String.ofList l) = "") (by
    rw [trimPunctuation_eq_empty_iff, String.toList_ofList])

example : Hollow "[ . ] ;".toList ∧ ¬ Hollow "[]".toList := by decide

/-! ## Short words before a period -/

/-- Letters, digits and low lines: the characters of words that are no commas. -/
def isPlainWord (c : Char) : Bool := isAlphabetic .v16 c || c.isDigit || c == '_'

theorem isPeriodWord_eq (c : Char) : isPeriodWord c = (isPlainWord c || c == ',') := rfl

/-- Whether a text ends in a period after a whole word of one or two characters. -/
structure EndsInAbbreviation (l before word : List Char) : Prop where
  eq : l = before ++ (word ++ ['.'])
  short : word.length = 1 ∨ word.length = 2
  plain : word.all isPlainWord
  whole : before.getLast?.any isPlainWord = false

/-- Whether a comma makes a word long: alone before two characters, after one more before a single
character. -/
def fuses (before word : List Char) : Bool :=
  before.getLast? == some ',' && (word.length == 2 || before.dropLast.getLast?.any isPeriodWord)

/-- What stays of a text before its last word: an opening bracket goes if no bracket follows, and so
do blanks at the start. -/
def cutStart (before : List Char) : List Char :=
  (if (afterOpening before).any isBracket then before else afterOpening before).dropWhile isBlank

theorem cutPeriod_abbreviation {l before word : List Char} (h : EndsInAbbreviation l before word) :
    cutPeriod l = before ++ (word ++ if fuses before word then [] else ['.']) := by
  obtain ⟨rfl, hshort, hplain, hwhole⟩ := h
  rcases hshort with hone | htwo
  · obtain ⟨w, rfl⟩ := List.length_eq_one_iff.mp hone
    have hw : isPlainWord w = true := by simpa using hplain
    rcases List.eq_nil_or_concat before with rfl | ⟨rest, b, rfl⟩
    · simp [cutPeriod, fuses]
    · have hb : isPlainWord b = false := by simpa using hwhole
      rcases List.eq_nil_or_concat rest with rfl | ⟨first, a, rfl⟩
      · simp [cutPeriod, fuses]
      · by_cases hcomma : b = ','
        · have hword : isPeriodWord ',' = true := by decide
          by_cases ha : isPeriodWord a = true <;>
            simp [cutPeriod, fuses, isPeriodWord_eq w, hw, hcomma, hword, ha]
        · simp [cutPeriod, fuses, isPeriodWord_eq b, hb, hcomma]
  · obtain ⟨v, w, rfl⟩ := List.length_eq_two.mp htwo
    rcases List.eq_nil_or_concat before with rfl | ⟨rest, a, rfl⟩
    · simp [cutPeriod, fuses]
    · have ha : isPlainWord a = false := by simpa using hwhole
      have hvw : isPlainWord v = true ∧ isPlainWord w = true := by simpa using hplain
      obtain ⟨hv, hw⟩ := hvw
      by_cases hcomma : a = ','
      · simp [cutPeriod, fuses, isPeriodWord_eq, hv, hw, hcomma]
      · simp [cutPeriod, fuses, isPeriodWord_eq, hv, hw, ha, hcomma]

theorem cutMark_of_period (l : List Char) : cutMark (l ++ ['.']) = l ++ ['.'] := by
  have hbody : (l ++ ['.']).rdropWhile (· == ' ') = l ++ ['.'] :=
    List.rdropWhile_concat_neg (· == ' ') l '.' (by decide)
  have hmark : isMark '.' = false := rfl
  rw [cutMark, hbody]
  simp [hmark]

section tail

variable {before tail : List Char} (hne : tail ≠ [])
include hne

/-- Before a word only an opening bracket can go. -/
theorem unwrapBrackets_append (htail : ∀ c ∈ tail, isBracket c = false) :
    unwrapBrackets (before ++ tail) =
      (if (afterOpening before).any isBracket then before else afterOpening before) ++ tail := by
  have hopening : afterOpening (before ++ tail) = afterOpening before ++ tail := by
    by_cases h : ∃ rest, before = '[' :: rest
    · obtain ⟨rest, rfl⟩ := h
      rfl
    · rw [afterOpening_of_ne fun rest hrest => h ⟨rest, hrest⟩, afterOpening_of_ne]
      intro rest hrest
      cases before with
      | nil =>
        rw [List.nil_append] at hrest
        have hbracket := htail '[' (by simp [hrest])
        cases hbracket
      | cons c before =>
        rw [List.cons_append] at hrest
        exact h ⟨before, by rw [(List.cons.inj hrest).1]⟩
  have hclosing : beforeClosing (afterOpening before ++ tail) = afterOpening before ++ tail := by
    refine if_neg fun hlast => ?_
    rw [List.getLast?_append_of_ne_nil _ hne, beq_iff_eq] at hlast
    have hbracket := htail ']' (List.mem_of_getLast? hlast)
    cases hbracket
  have hany : tail.any isBracket = false := by simpa using htail
  rw [unwrapBrackets_eq_beforeClosing, hopening, hclosing, List.any_append, hany]
  by_cases h : (afterOpening before).any isBracket = true <;> simp [h, hne]

theorem trimBlanks_append (htail : ∀ c ∈ tail, isBlank c = false) :
    trimBlanks (before ++ tail) = before.dropWhile isBlank ++ tail := by
  have hsplit := List.takeWhile_append_dropWhile (p := isBlank) (l := before)
  conv_lhs => rw [← hsplit, List.append_assoc, ← List.append_nil (before.dropWhile isBlank ++ tail)]
  refine trimBlanks_around (fun c hc => List.mem_takeWhile_imp hc) (by simp) (fun c hc => ?_)
    fun c hc => ?_
  · have hnot := List.head?_dropWhile_not isBlank before
    cases hdrop : before.dropWhile isBlank with
    | nil =>
      rw [hdrop, List.nil_append] at hc
      exact htail c (List.mem_of_head? hc)
    | cons d rest =>
      rw [hdrop] at hc hnot
      simpa [← Option.some.inj hc] using hnot
  · rw [List.getLast?_append_of_ne_nil _ hne] at hc
    exact htail c (List.mem_of_getLast? hc)

end tail

section abbreviation

variable {l before word : List Char} (h : EndsInAbbreviation l before word)
include h

theorem EndsInAbbreviation.ne_nil : word ≠ [] := by
  rintro rfl
  rcases h.short with hone | htwo
  · cases hone
  · cases htwo

theorem EndsInAbbreviation.period_not_mem : '.' ∉ word := by
  intro hmem
  have hperiod : isPlainWord '.' = false := by decide
  rw [List.all_eq_true.mp h.plain _ hmem] at hperiod
  cases hperiod

theorem EndsInAbbreviation.isPeriodWord_or_eq {c : Char} (hc : c ∈ word ++ ['.']) :
    isPeriodWord c = true ∨ c = '.' := by
  rcases List.mem_append.mp hc with hc | hc
  · left
    rw [isPeriodWord_eq, List.all_eq_true.mp h.plain c hc, Bool.true_or]
  · exact .inr (List.mem_singleton.mp hc)

theorem EndsInAbbreviation.not_isBracket {c : Char} (hc : c ∈ word ++ ['.']) :
    isBracket c = false := by
  rcases h.isPeriodWord_or_eq hc with hword | rfl
  · by_contra hbracket
    rw [isPeriodWord_of_isBracket (Bool.not_eq_false _ ▸ hbracket)] at hword
    cases hword
  · rfl

theorem EndsInAbbreviation.not_isBlank {c : Char} (hc : c ∈ word ++ ['.']) :
    isBlank c = false := by
  rcases h.isPeriodWord_or_eq hc with hword | rfl
  · by_contra hblank
    rw [isPeriodWord_of_isBlank (Bool.not_eq_false _ ▸ hblank)] at hword
    cases hword
  · rfl

theorem trimPunctuationList_abbreviation :
    trimPunctuationList l = cutStart before ++ (word ++ if fuses before word then [] else ['.']) := by
  have hmark : dropMark l = l := by
    rw [dropMark_eq_cutMark, h.eq, ← List.append_assoc, cutMark_of_period]
  have hperiod := cutPeriod_abbreviation h
  generalize htail : (word ++ if fuses before word then [] else ['.']) = tail at hperiod ⊢
  have hne : tail ≠ [] := by
    rw [← htail]
    exact List.append_ne_nil_of_left_ne_nil h.ne_nil _
  have hsub : ∀ c ∈ tail, c ∈ word ++ ['.'] := by
    intro c hc
    rw [← htail] at hc
    split at hc
    · exact List.mem_append_left _ (by simpa using hc)
    · exact hc
  have halone : cutStart before ++ tail ≠ ['.'] := by
    obtain ⟨w, hw⟩ := List.exists_mem_of_ne_nil word h.ne_nil
    intro heq
    have hmem : w ∈ cutStart before ++ tail := by
      rw [← htail]
      exact List.mem_append_right _ (List.mem_append_left _ hw)
    rw [heq, List.mem_singleton] at hmem
    exact h.period_not_mem (hmem ▸ hw)
  have htrimmed : trimBlanks (unwrapBrackets (dropPeriod (dropMark l))) = cutStart before ++ tail := by
    rw [hmark, dropPeriod_eq_cutPeriod, hperiod,
      unwrapBrackets_append hne fun c hc => h.not_isBracket (hsub c hc),
      trimBlanks_append hne fun c hc => h.not_isBlank (hsub c hc)]
    rfl
  rw [trimPunctuationList]
  simp only [htrimmed, beq_iff_eq, if_neg halone]

end abbreviation

/-- **A short word keeps its period unless a comma is fused to it.** After a whole word of one or two
characters the period goes just if a comma makes the word long. The word itself stays in any case, and
of what is before it only an opening bracket and blanks can go. -/
theorem trimPunctuation_abbreviation {s : String} {before word : List Char}
    (h : EndsInAbbreviation s.toList before word) :
    (trimPunctuation s).toList =
        cutStart before ++ (word ++ if fuses before word then [] else ['.']) ∧
    ((trimPunctuation s).toList.getLast? = some '.' ↔ fuses before word = false) := by
  have hlist : (trimPunctuation s).toList =
      cutStart before ++ (word ++ if fuses before word then [] else ['.']) := by
    rw [trimPunctuation, String.toList_ofList, trimPunctuationList_abbreviation h]
  refine ⟨hlist, ?_⟩
  rw [hlist]
  by_cases hfuses : fuses before word = true
  · have hlast : word.getLast? ≠ some '.' := fun hlast =>
      h.period_not_mem (List.mem_of_getLast? hlast)
    simp [hfuses, hlast, List.getLast?_append_of_ne_nil _ h.ne_nil]
  · simp [hfuses]

theorem trimPunctuation_abbreviation_junior :
    EndsInAbbreviation "[Wilson, Jr.".toList "[Wilson, ".toList "Jr".toList ∧
    (trimPunctuation "[Wilson, Jr.").toList.getLast? = some '.' := by
  have h : EndsInAbbreviation "[Wilson, Jr.".toList "[Wilson, ".toList "Jr".toList :=
    ⟨by decide, by decide, by decide, by decide⟩
  exact ⟨h, (trimPunctuation_abbreviation h).2.mpr (by decide)⟩

/-- Without the blank the comma belongs to the word, and the abbreviation loses its period. -/
theorem fused_abbreviation_loses_period :
    EndsInAbbreviation "Wilson,Jr.".toList "Wilson,".toList "Jr".toList ∧
    trimPunctuation "Wilson,Jr." = "Wilson,Jr" := by
  exact ⟨⟨by decide, by decide, by decide, by decide⟩, by decide⟩

end MarcHarvest.Text
