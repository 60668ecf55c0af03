import MarcHarvest.Proofs.Text.TrailingPatterns
import MarcHarvest.Proofs.Text.Trim

/-!
# Trailing punctuation by hand

Three forms of the rules for trailing punctuation agree on every text (`trimPunctuation_direct`):
the patterns, the functions that go through the text from its start, and `cutPunctuation`, which
looks at its end.
-/

namespace MarcHarvest.Text

/-! ## The rules at the end of a text -/

/-- Drops a mark that only spaces follow, with all spaces around it. -/
def cutMark (l : List Char) : List Char :=
  let body := l.rdropWhile (· == ' ')
  if body.getLast?.any isMark then body.dropLast.rdropWhile (· == ' ') else l

/-- Drops a period after three characters of words. -/
def cutPeriod (l : List Char) : List Char :=
  match l.reverse with
  | '.' :: c :: b :: a :: _ =>
    if isPeriodWord a && isPeriodWord b && isPeriodWord c then l.dropLast else l
  | _ => l

/-- Drops a bracket at each end of a text that has no other. -/
def cutBrackets (l : List Char) : List Char :=
  let inner := l.filter (!isBracket ·)
  if !inner.isEmpty &&
      [inner, '[' :: inner, inner ++ [']'], '[' :: inner ++ [']']].contains l then inner
  else l

/-- The rules in their order, then without blanks at both ends and without a period alone. -/
def cutPunctuation (l : List Char) : List Char :=
  let text := ((cutBrackets (cutPeriod (cutMark l))).dropWhile isBlank).rdropWhile isBlank
  if text == ['.'] then [] else text

/-! ## The mark -/

theorem isClosingMark_iff {l : List Char} :
    isClosingMark l = true ↔ ∃ before c after, l = before ++ c :: after ∧
      (∀ d ∈ before, (d == ' ') = true) ∧ isMark c = true ∧ ∀ d ∈ after, (d == ' ') = true := by
  constructor
  · intro h
    rw [isClosingMark] at h
    cases hrest : l.dropWhile (· == ' ') with
    | nil => simp [hrest] at h
    | cons c rest =>
      rw [hrest] at h
      obtain ⟨hmark, hspaces⟩ := Bool.and_eq_true_iff.mp h
      have hbefore : ∀ d ∈ l.takeWhile (· == ' '), (d == ' ') = true :=
        fun d hd => List.mem_takeWhile_imp (p := (· == ' ')) hd
      refine ⟨l.takeWhile (· == ' '), c, rest, ?_, hbefore, hmark, List.all_eq_true.mp hspaces⟩
      rw [← hrest, List.takeWhile_append_dropWhile]
  · rintro ⟨before, c, after, rfl, hbefore, hmark, hafter⟩
    have hspace : (c == ' ') = false := by
      by_contra hc
      rw [Bool.not_eq_false, beq_iff_eq] at hc
      subst hc
      cases hmark
    rw [isClosingMark, List.dropWhile_append_of_pos hbefore, List.dropWhile_cons, hspace]
    simp only [Bool.false_eq_true, if_false]
    rw [hmark, Bool.true_and, List.all_eq_true]
    exact hafter

theorem countP_of_isClosingMark {l : List Char} (h : isClosingMark l = true) :
    l.countP (!· == ' ') = 1 := by
  obtain ⟨before, c, after, rfl, hbefore, hmark, hafter⟩ := isClosingMark_iff.mp h
  have hspaces : ∀ l' : List Char, (∀ d ∈ l', (d == ' ') = true) → l'.countP (!· == ' ') = 0 := by
    intro l' hl'
    rw [List.countP_eq_zero]
    intro d hd
    simp [hl' d hd]
  have hc : (!c == ' ') = true := by
    by_contra hc
    rw [Bool.not_eq_true', Bool.not_eq_false, beq_iff_eq] at hc
    subst hc
    cases hmark
  rw [List.countP_append, List.countP_cons, hspaces before hbefore, hspaces after hafter, if_pos hc]

theorem dropMark_append {l tail : List Char} (htail : isClosingMark tail = true)
    (hl : l.getLast? ≠ some ' ') : dropMark (l ++ tail) = l := by
  induction l with
  | nil =>
    cases tail with
    | nil => rfl
    | cons c rest => rw [List.nil_append, dropMark, if_pos htail]
  | cons c rest ih =>
    have hrest : rest.getLast? ≠ some ' ' := by
      intro h
      rw [List.getLast?_cons, h] at hl
      exact hl rfl
    -- a closing mark from here on would hold the last character, too
    have hlonger : ¬ isClosingMark (c :: rest ++ tail) = true := by
      intro h
      have hcount := countP_of_isClosingMark h
      rw [List.countP_append, countP_of_isClosingMark htail, Nat.add_eq_right,
        List.countP_eq_zero] at hcount
      have hspace := hcount _ (List.getLast_mem (List.cons_ne_nil c rest))
      rw [List.getLast?_eq_some_getLast (List.cons_ne_nil c rest)] at hl
      exact hl (congrArg some (by simpa using hspace))
    rw [List.cons_append] at hlonger ⊢
    rw [dropMark, if_neg hlonger, ih hrest]

theorem dropMark_eq_self {l : List Char} (h : ∀ tail, tail <:+ l → isClosingMark tail = false) :
    dropMark l = l := by
  induction l with
  | nil => rfl
  | cons c rest ih =>
    have hrest := ih fun tail htail => h tail (htail.trans (List.suffix_cons c rest))
    rw [dropMark, h _ (List.suffix_refl _), if_neg Bool.false_ne_true, hrest]

theorem rdropWhile_append_mark {l after : List Char} {c : Char} (hmark : isMark c = true)
    (hafter : ∀ d ∈ after, (d == ' ') = true) :
    (l ++ c :: after).rdropWhile (· == ' ') = l ++ [c] := by
  have hc : ¬ (c == ' ') = true := by
    rintro hc
    rw [beq_iff_eq.mp hc] at hmark
    cases hmark
  rw [List.append_cons, rdropWhile_append_of_all hafter,
    List.rdropWhile_concat_neg (· == ' ') l c hc]

theorem dropMark_eq_cutMark (l : List Char) : dropMark l = cutMark l := by
  rw [cutMark]
  by_cases h : (l.rdropWhile (· == ' ')).getLast?.any isMark = true
  · obtain ⟨c, hc, hmark⟩ := (Option.any_eq_true ..).mp h
    obtain ⟨body, hbody⟩ := List.getLast?_eq_some_iff.mp hc
    rw [if_pos h, hbody, List.dropLast_concat]
    have hl : l = body.rdropWhile (· == ' ') ++
        (body.rtakeWhile (· == ' ') ++ c :: l.rtakeWhile (· == ' ')) := by
      rw [← List.append_assoc, List.rdropWhile_append_rtakeWhile, List.append_cons, ← hbody,
        List.rdropWhile_append_rtakeWhile]
    have hclosing : isClosingMark (body.rtakeWhile (· == ' ') ++ c :: l.rtakeWhile (· == ' ')) =
        true :=
      isClosingMark_iff.mpr ⟨_, c, _, rfl, fun d hd => List.mem_rtakeWhile_imp (p := (· == ' ')) hd,
        hmark, fun d hd => List.mem_rtakeWhile_imp (p := (· == ' ')) hd⟩
    have hlast : (body.rdropWhile (· == ' ')).getLast? ≠ some ' ' := by
      intro hspace
      cases last_rdropWhile hspace
    conv_lhs => rw [hl]
    exact dropMark_append hclosing hlast
  · rw [if_neg h]
    refine dropMark_eq_self fun tail htail => ?_
    by_contra hclosing
    rw [Bool.not_eq_false] at hclosing
    obtain ⟨before, c, after, rfl, -, hmark, hafter⟩ := isClosingMark_iff.mp hclosing
    obtain ⟨first, rfl⟩ := htail
    refine h ?_
    rw [← List.append_assoc, rdropWhile_append_mark hmark hafter, List.getLast?_concat]
    exact hmark

/-! ## The period -/

/-- Whether a text ends in three characters of words and a period. -/
def EndsInWord (l : List Char) : Prop :=
  ∃ first a b c, l = first ++ [a, b, c, '.'] ∧ isPeriodWord a = true ∧ isPeriodWord b = true ∧
    isPeriodWord c = true

theorem EndsInWord.append {tail : List Char} (h : EndsInWord tail) (first : List Char) :
    EndsInWord (first ++ tail) := by
  obtain ⟨more, a, b, c, rfl, hwords⟩ := h
  exact ⟨first ++ more, a, b, c, by rw [List.append_assoc], hwords⟩

theorem endsInWord_of_isClosingWord {l : List Char} (h : isClosingWord l = true) :
    EndsInWord l := by
  obtain ⟨hlength, -⟩ := (isClosingWord_iff l).mp h
  have hl := eq_of_isClosingWord h
  have hall : ∀ d ∈ (l.dropWhile (· == ' ')).takeWhile isPeriodWord, isPeriodWord d = true :=
    fun d hd => List.mem_takeWhile_imp hd
  generalize (l.dropWhile (· == ' ')).takeWhile isPeriodWord = run at hlength hl hall
  obtain ⟨c, b, a, rest, hrun⟩ : ∃ c b a rest, run.reverse = c :: b :: a :: rest := by
    rw [← List.length_reverse] at hlength
    match hrev : run.reverse with
    | c :: b :: a :: rest => exact ⟨c, b, a, rest, rfl⟩
    | [] => simp [hrev] at hlength
    | [_] => simp [hrev] at hlength
    | [_, _] => simp [hrev] at hlength
  have hrun : run = rest.reverse ++ [a, b, c] := by
    rw [← List.reverse_reverse run, hrun]
    simp
  subst hrun
  refine ⟨l.takeWhile (· == ' ') ++ rest.reverse, a, b, c, ?_, hall a (by simp), hall b (by simp),
    hall c (by simp)⟩
  refine hl.trans ?_
  simp only [List.append_assoc, List.cons_append, List.nil_append]

theorem isClosingWord_of_words {a b c : Char} (ha : isPeriodWord a = true)
    (hb : isPeriodWord b = true) (hc : isPeriodWord c = true) :
    isClosingWord [a, b, c, '.'] = true := by
  have hspace : (a == ' ') = false := by
    by_contra h
    rw [Bool.not_eq_false, beq_iff_eq] at h
    subst h
    cases ha
  have hperiod : isPeriodWord '.' = false := by decide
  simp [isClosingWord_iff, hspace, ha, hb, hc, hperiod]

theorem dropPeriod_of_suffix {l tail : List Char} (htail : tail <:+ l)
    (h : isClosingWord tail = true) : dropPeriod l = l.dropLast := by
  induction l with
  | nil => rfl
  | cons c rest ih =>
    rw [dropPeriod]
    by_cases hhere : isClosingWord (c :: rest) = true
    · rw [if_pos hhere]
    · rcases List.suffix_cons_iff.mp htail with rfl | hrest
      · exact absurd h hhere
      · have hne : rest ≠ [] := by
          rintro rfl
          rw [List.suffix_nil.mp hrest] at h
          cases h
        rw [if_neg hhere, ih hrest, List.dropLast_cons_of_ne_nil hne]

theorem dropPeriod_eq_self {l : List Char} (h : ¬ EndsInWord l) : dropPeriod l = l := by
  induction l with
  | nil => rfl
  | cons c rest ih =>
    have hhere : ¬ isClosingWord (c :: rest) = true := mt endsInWord_of_isClosingWord h
    rw [dropPeriod, if_neg hhere, ih fun hrest => h (hrest.append [c])]

theorem cutPeriod_eq_self {l : List Char} (h : ¬ EndsInWord l) : cutPeriod l = l := by
  rw [cutPeriod]
  split
  · rename_i c b a rest hl
    rw [List.reverse_eq_iff] at hl
    refine if_neg fun hwords => h ?_
    rw [Bool.and_eq_true, Bool.and_eq_true] at hwords
    exact ⟨rest.reverse, a, b, c, by simpa using hl, hwords.1.1, hwords.1.2, hwords.2⟩
  · rfl

theorem dropPeriod_eq_cutPeriod (l : List Char) : dropPeriod l = cutPeriod l := by
  by_cases h : EndsInWord l
  · obtain ⟨first, a, b, c, rfl, ha, hb, hc⟩ := h
    rw [dropPeriod_of_suffix (List.suffix_append ..) (isClosingWord_of_words ha hb hc)]
    simp [cutPeriod, ha, hb, hc]
  · rw [dropPeriod_eq_self h, cutPeriod_eq_self h]

/-! ## The brackets -/

/-- Whether a text is an inner text without brackets, with or without a bracket at each end. -/
structure Bracketed (l inner : List Char) : Prop where
  ne_nil : inner ≠ []
  inside : ∀ c ∈ inner, isBracket c = false
  around : l ∈ [inner, '[' :: inner, inner ++ [']'], '[' :: inner ++ [']']]

theorem Bracketed.filter_eq {l inner : List Char} (h : Bracketed l inner) :
    l.filter (!isBracket ·) = inner := by
  obtain ⟨-, hinside, haround⟩ := h
  have hself : inner.filter (!isBracket ·) = inner :=
    List.filter_eq_self.mpr fun c hc => by rw [hinside c hc]; rfl
  have hopening : isBracket '[' = true := rfl
  have hclosing : isBracket ']' = true := rfl
  simp only [List.mem_cons, List.not_mem_nil, or_false] at haround
  rcases haround with rfl | rfl | rfl | rfl <;> simp [hself, hopening, hclosing]

theorem cutBrackets_of_bracketed {l inner : List Char} (h : Bracketed l inner) :
    cutBrackets l = inner := by
  have hcuts : (!inner.isEmpty &&
      [inner, '[' :: inner, inner ++ [']'], '[' :: inner ++ [']']].contains l) = true := by
    rw [Bool.and_eq_true, List.contains_iff_mem]
    exact ⟨by simpa using h.ne_nil, h.around⟩
  rw [cutBrackets, h.filter_eq, if_pos hcuts]

theorem cutBrackets_eq_self {l : List Char} (h : ∀ inner, ¬ Bracketed l inner) :
    cutBrackets l = l := by
  refine if_neg fun hcuts => h (l.filter (!isBracket ·)) ?_
  rw [Bool.and_eq_true, List.contains_iff_mem] at hcuts
  refine ⟨by simpa using hcuts.1, fun c hc => ?_, hcuts.2⟩
  simpa using (List.mem_filter.mp hc).2

theorem Bracketed.beforeClosing_eq {l inner : List Char} (h : Bracketed l inner) :
    beforeClosing (afterOpening l) = inner := by
  obtain ⟨hne, hinside, haround⟩ := h
  have hopening : ∀ tail, afterOpening (inner ++ tail) = inner ++ tail := by
    intro tail
    refine afterOpening_of_ne fun rest hrest => ?_
    obtain ⟨c, more, rfl⟩ := List.exists_cons_of_ne_nil hne
    have hc := hinside c List.mem_cons_self
    rw [(List.cons.inj hrest).1] at hc
    cases hc
  have hclosed : beforeClosing inner = inner := by
    refine if_neg fun hlast => ?_
    have hc := hinside _ (List.mem_of_getLast? (beq_iff_eq.mp hlast))
    cases hc
  have hclosing : beforeClosing (inner ++ [']']) = inner := by simp [beforeClosing]
  simp only [List.mem_cons, List.not_mem_nil, or_false] at haround
  rcases haround with rfl | rfl | rfl | rfl
  · rw [← List.append_nil l, hopening, List.append_nil, hclosed]
  · exact hclosed
  · rw [hopening, hclosing]
  · exact hclosing

theorem unwrapBrackets_of_bracketed {l inner : List Char} (h : Bracketed l inner) :
    unwrapBrackets l = inner := by
  have hinner := h.beforeClosing_eq
  obtain ⟨hisInner, htake⟩ := isInner_of_beforeClosing (hinner ▸ h.ne_nil) (hinner ▸ h.inside)
  rw [unwrapBrackets_eq, if_pos hisInner, htake, hinner]

theorem bracketed_of_isInner {l : List Char} (h : isInner (afterOpening l) = true) :
    Bracketed l ((afterOpening l).takeWhile (!isBracket ·)) := by
  obtain ⟨hlength, htail⟩ := (isInner_iff _).mp h
  refine ⟨List.length_pos_iff.mp hlength, fun c hc => ?_, ?_⟩
  · simpa using List.mem_takeWhile_imp hc
  · have hopening : l = afterOpening l ∨ l = '[' :: afterOpening l := by
      by_cases hopening : ∃ rest, l = '[' :: rest
      · obtain ⟨rest, rfl⟩ := hopening
        exact .inr rfl
      · exact .inl (afterOpening_of_ne fun rest h => hopening ⟨rest, h⟩).symm
    have hsplit := List.takeWhile_append_dropWhile (p := (!isBracket ·)) (l := afterOpening l)
    generalize (afterOpening l).takeWhile (!isBracket ·) = inner at hsplit ⊢
    rcases htail with htail | htail <;> rw [htail] at hsplit <;>
      rcases hopening with hl | hl <;> rw [hl, ← hsplit] <;> simp

theorem unwrapBrackets_eq_self {l : List Char} (h : ∀ inner, ¬ Bracketed l inner) :
    unwrapBrackets l = l := by
  rw [unwrapBrackets_eq, if_neg fun hinner => h _ (bracketed_of_isInner hinner)]

theorem unwrapBrackets_eq_cutBrackets (l : List Char) : unwrapBrackets l = cutBrackets l := by
  by_cases h : ∃ inner, Bracketed l inner
  · obtain ⟨inner, hinner⟩ := h
    rw [unwrapBrackets_of_bracketed hinner, cutBrackets_of_bracketed hinner]
  · have hnone : ∀ inner, ¬ Bracketed l inner := fun inner hinner => h ⟨inner, hinner⟩
    rw [unwrapBrackets_eq_self hnone, cutBrackets_eq_self hnone]

/-! ## All rules -/

theorem trimPunctuationList_eq (l : List Char) : trimPunctuationList l = cutPunctuation l := by
  rw [trimPunctuationList, dropMark_eq_cutMark, dropPeriod_eq_cutPeriod,
    unwrapBrackets_eq_cutBrackets, cutPunctuation]
  rfl

example : cutPunctuation "[place unknown. ;".toList = "place unknown".toList := by decide

theorem prefix_cutMark (l : List Char) : cutMark l <+: l := by
  rw [cutMark]
  split
  · have hbody := List.rdropWhile_prefix (· == ' ') l
    have hmark := List.dropLast_prefix (l.rdropWhile (· == ' '))
    have hspaces := List.rdropWhile_prefix (· == ' ') (l.rdropWhile (· == ' ')).dropLast
    exact hspaces.trans (hmark.trans hbody)
  · exact List.prefix_refl l

theorem prefix_cutPeriod (l : List Char) : cutPeriod l <+: l := by
  rw [cutPeriod]
  split
  · split
    · exact List.dropLast_prefix l
    · exact List.prefix_refl l
  · exact List.prefix_refl l

theorem Bracketed.isInfix {l inner : List Char} (h : Bracketed l inner) : inner <:+: l := by
  have haround := h.around
  simp only [List.mem_cons, List.not_mem_nil, or_false] at haround
  rcases haround with rfl | rfl | rfl | rfl
  · exact List.infix_rfl
  · exact ⟨['['], [], by simp⟩
  · exact ⟨[], [']'], rfl⟩
  · exact ⟨['['], [']'], by simp⟩

theorem infix_cutBrackets (l : List Char) : cutBrackets l <:+: l := by
  by_cases h : ∃ inner, Bracketed l inner
  · obtain ⟨inner, hinner⟩ := h
    rw [cutBrackets_of_bracketed hinner]
    exact hinner.isInfix
  · rw [cutBrackets_eq_self fun inner hinner => h ⟨inner, hinner⟩]

theorem lt_of_not_isBlank {c : Char} (h : isBlank c = false) : ' ' < c := by
  rw [isBlank, decide_eq_false_iff_not, Nat.not_le] at h
  exact h

theorem cutPunctuation_cases (l : List Char) :
    cutPunctuation l = [] ∨ cutPunctuation l ≠ ['.'] ∧
      cutPunctuation l = trimBlanks (cutBrackets (cutPeriod (cutMark l))) := by
  have hcut : cutPunctuation l =
      if trimBlanks (cutBrackets (cutPeriod (cutMark l))) == ['.'] then []
      else trimBlanks (cutBrackets (cutPeriod (cutMark l))) := rfl
  by_cases h : (trimBlanks (cutBrackets (cutPeriod (cutMark l))) == ['.']) = true
  · exact .inl (hcut.trans (if_pos h))
  · rw [hcut, if_neg h]
    exact .inr ⟨fun heq => h (beq_iff_eq.mpr heq), rfl⟩

/-- **Trailing punctuation, directly.** On every text the rules do what the patterns say and what is
cut by hand. The result is a piece of the text, has no blank at either end, and is not a period
alone. -/
theorem trimPunctuation_direct (s : String) :
    byPatterns? s = some (trimPunctuation s) ∧
    (trimPunctuation s).toList = cutPunctuation s.toList ∧
    (trimPunctuation s).toList <:+: s.toList ∧
    (∀ c, (trimPunctuation s).toList.head? = some c → ' ' < c) ∧
    (∀ c, (trimPunctuation s).toList.getLast? = some c → ' ' < c) ∧
    trimPunctuation s ≠ "." := by
  have hcut : (trimPunctuation s).toList = cutPunctuation s.toList := by
    rw [trimPunctuation, String.toList_ofList, trimPunctuationList_eq]
  have hperiod : trimPunctuation s = "." ↔ cutPunctuation s.toList = ['.'] := by
    rw [← hcut, ← String.toList_inj]
    rfl
  refine ⟨byPatterns?_eq s, hcut, ?_⟩
  rw [hcut, Ne, hperiod]
  rcases cutPunctuation_cases s.toList with hempty | ⟨hne, hblanks⟩
  · have hnil : [] <:+: s.toList := List.nil_infix
    rw [hempty]
    exact ⟨hnil, by simp, by simp, by simp⟩
  · refine ⟨?_, fun c hc => ?_, fun c hc => ?_, hne⟩
    · rw [hblanks]
      exact (infix_trimBlanks _).trans ((infix_cutBrackets _).trans
        ((prefix_cutPeriod _).isInfix.trans (prefix_cutMark _).isInfix))
    · rw [hblanks] at hc
      exact lt_of_not_isBlank (head?_trimBlanks hc)
    · rw [hblanks] at hc
      exact lt_of_not_isBlank (getLast?_trimBlanks hc)

end MarcHarvest.Text
