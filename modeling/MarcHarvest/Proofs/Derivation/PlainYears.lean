import MarcHarvest.Proofs.Derivation.YearSigns
import MarcHarvest.Proofs.Derivation.YearWords

/-!
# Years that are overlooked

A plain year is a number of three or four digits between edges of words (`PlainYear`). Not every one
of them is found, since the letter that is written for the mark of a decade belongs to words: a year of
three digits with a mark and a word behind it becomes part of one longer word, and so does a year that
follows the mark of a decade (`Fused`). In `195-1955` both happen.

All other plain years are found. What is found at all are numbers of three or four digits, and decades
with their marks, that are still words when decades are marked (`StandsApart`). Every place of the text
with the decades marked is a place of the text itself (`markAfter_append`), so the words of one are
looked up in the other.
-/

namespace MarcHarvest.PublicationDate

open Index Text Unicode

variable {before run after : List Char} {text : String} {type : Option Char}

/-! ## Plain years -/

/-- Three digits, and perhaps a fourth one or a mark for it. -/
def WritesYearOrDecade (run : List Char) : Prop :=
  ∃ a b c, [a, b, c].all Char.isDigit ∧
    (run = [a, b, c] ∨ ∃ d, run = [a, b, c, d] ∧ (d.isDigit ∨ isUnknownMark d))

/-- Whether the nearest character before a place is the mark of a decade. -/
def endsMarked : List Char → Bool
  | m :: earlier => isUnknownMark m && afterDecade earlier
  | [] => false

/-- A number of three or four digits with no character of a word on either side. -/
structure PlainYear (before run after : List Char) : Prop where
  length : run.length = 3 ∨ run.length = 4
  digits : run.all Char.isDigit
  left : meetsWord before.reverse = false
  right : meetsWord after = false

/-- A plain year that marking decades makes part of a longer word: the mark of a decade is before it,
or it is a decade itself with a mark and a word behind it. -/
def Fused (before run after : List Char) : Prop :=
  endsMarked before.reverse ∨
    run.length = 3 ∧ ∃ m rest, after = m :: rest ∧ isUnknownMark m ∧ meetsWord rest

/-- A year or a decade with its mark that is a word when decades are marked. -/
structure StandsApart (before run after : List Char) : Prop where
  shape : WritesYearOrDecade run
  left : meetsWord before.reverse = false
  unmarked : endsMarked before.reverse = false
  right : meetsWord after = false
  closed : run.length = 3 → ¬ after.head?.any isUnknownMark

theorem exists_of_length {l : List Char} (h : l.length = 3 ∨ l.length = 4) :
    ∃ a b c, l = [a, b, c] ∨ ∃ d, l = [a, b, c, d] := by
  rcases h with h | h
  · obtain ⟨a, b, c, rfl⟩ := List.length_eq_three.mp h
    exact ⟨a, b, c, Or.inl rfl⟩
  · match l, h with
    | [a, b, c, d], _ => exact ⟨a, b, c, Or.inr ⟨d, rfl⟩⟩

theorem PlainYear.exists_standsApart (h : PlainYear before run after)
    (hfused : ¬ Fused before run after) :
    ∃ mark rest, after = mark ++ rest ∧ StandsApart before (run ++ mark) rest := by
  have hunmarked : endsMarked before.reverse = false :=
    Bool.eq_false_iff.mpr fun hmarked => hfused (Or.inl hmarked)
  obtain ⟨a, b, c, rfl | ⟨d, rfl⟩⟩ := exists_of_length h.length
  · by_cases hmark : after.head?.any isUnknownMark
    · -- the mark goes with the decade, and no word follows it
      cases after with
      | nil => cases hmark
      | cons m rest =>
        have hrest : meetsWord rest = false :=
          Bool.eq_false_iff.mpr fun hword => hfused (Or.inr ⟨rfl, m, rest, rfl, hmark, hword⟩)
        exact ⟨[m], rest, rfl, ⟨a, b, c, h.digits, Or.inr ⟨m, rfl, Or.inr hmark⟩⟩, h.left, hunmarked,
          hrest, fun hlength => nomatch hlength⟩
    · exact ⟨[], after, rfl, ⟨a, b, c, h.digits, Or.inl rfl⟩, h.left, hunmarked, h.right,
        fun _ => hmark⟩
  · have hdigits : [a, b, c].all Char.isDigit ∧ d.isDigit := by simpa [and_assoc] using h.digits
    exact ⟨[], after, rfl, ⟨a, b, c, hdigits.1, Or.inr ⟨d, rfl, Or.inl hdigits.2⟩⟩, h.left, hunmarked,
      h.right, fun hlength => nomatch hlength⟩

theorem WritesYearOrDecade.length_le (h : WritesYearOrDecade run) : run.length ≤ 4 := by
  obtain ⟨a, b, c, -, rfl | ⟨d, rfl, -⟩⟩ := h
  · exact Nat.le_succ 3
  · exact le_rfl

theorem PlainYear.standsApart_iff (h : PlainYear before run after) :
    (∃ mark rest, after = mark ++ rest ∧ StandsApart before (run ++ mark) rest) ↔
      ¬ Fused before run after := by
  refine ⟨?_, h.exists_standsApart⟩
  rintro ⟨mark, rest, rfl, hapart⟩ (hmarked | ⟨hlength, m, tail, heq, hm, hword⟩)
  · exact Bool.false_ne_true (hapart.unmarked.symm.trans hmarked)
  · cases mark with
    | nil =>
      rw [List.nil_append] at heq
      rw [List.append_nil, heq] at hapart
      exact hapart.closed hlength hm
    | cons d more =>
      have hle := hapart.shape.length_le
      rw [List.length_append, List.length_cons] at hle
      obtain rfl : more = [] := List.eq_nil_of_length_eq_zero (by omega)
      obtain ⟨-, rfl⟩ := List.cons.inj heq
      exact Bool.false_ne_true (hapart.right.symm.trans hword)

/-! ## Places in the marked text -/

theorem markAfter_append (before l₁ l₂ : List Char) :
    markAfter before (l₁ ++ l₂) = markAfter before l₁ ++ markAfter (l₁.reverse ++ before) l₂ := by
  induction l₁ generalizing before with
  | nil => rfl
  | cons c l₁ ih =>
    rw [List.cons_append, markAfter, markAfter, ih, List.cons_append, List.reverse_cons,
      List.append_assoc, List.singleton_append]

theorem length_markAfter (before l : List Char) : (markAfter before l).length = l.length := by
  induction l generalizing before with
  | nil => rfl
  | cons c l ih => rw [markAfter, List.length_cons, List.length_cons, ih]

theorem exists_of_markAfter_eq_append {l l₁ l₂ : List Char}
    (h : markAfter before l = l₁ ++ l₂) :
    ∃ k₁ k₂, l = k₁ ++ k₂ ∧ markAfter before k₁ = l₁ ∧ markAfter (k₁.reverse ++ before) k₂ = l₂ := by
  have hlength : (markAfter before (l.take l₁.length)).length = l₁.length := by
    have hle := congrArg List.length h
    rw [length_markAfter, List.length_append] at hle
    rw [length_markAfter, List.length_take]
    omega
  rw [← List.take_append_drop l₁.length l, markAfter_append] at h
  obtain ⟨h₁, h₂⟩ := List.append_inj h hlength
  exact ⟨_, _, (List.take_append_drop ..).symm, h₁, h₂⟩

/-- The mark of a decade becomes part of a word, and every other character stays what it is. -/
theorem meetsWord_markAfter (before after : List Char) :
    meetsWord (markAfter before after) =
      (meetsWord after || after.head?.any isUnknownMark && afterDecade before) := by
  cases after with
  | nil => rfl
  | cons c rest =>
    rw [markAfter, meetsWord_cons, meetsWord_cons, List.head?_cons, Option.any_some]
    cases isUnknownMark c && afterDecade before with
    | true => exact (Bool.or_true _).symm
    | false => exact (Bool.or_false _).symm

theorem meetsWord_reverse_markAfter (l : List Char) :
    meetsWord (markAfter [] l).reverse = (meetsWord l.reverse || endsMarked l.reverse) := by
  rcases List.eq_nil_or_concat l with rfl | ⟨l, c, rfl⟩
  · rfl
  · have hlast := meetsWord_markAfter l.reverse [c]
    rw [List.concat_eq_append, markAfter_append, List.reverse_append, List.append_nil,
      List.reverse_append]
    exact hlast

/-- A year in a text is what becomes of a piece of it between edges of words. -/
theorem mem_yearsIn_iff {year l : List Char} :
    year ∈ yearsIn l ↔
      ∃ before run after, l = before ++ (run ++ after) ∧ markAfter before.reverse run = year ∧
        isYear year ∧ meetsWord (markAfter [] before).reverse = false ∧
        meetsWord (markAfter (run.reverse ++ before.reverse) after) = false := by
  rw [yearsIn, filter_isYear_words, List.mem_filter, mem_splitOnP_iff]
  constructor
  · rintro ⟨⟨-, before', after', heq, hbefore, hafter⟩, hyear⟩
    obtain ⟨before, rest, rfl, rfl, hrest⟩ := exists_of_markAfter_eq_append heq
    rw [List.append_nil] at hrest
    obtain ⟨run, after, rfl, rfl, rfl⟩ := exists_of_markAfter_eq_append hrest
    exact ⟨before, run, after, rfl, rfl, hyear, hbefore, hafter⟩
  · rintro ⟨before, run, after, rfl, rfl, hyear, hbefore, hafter⟩
    refine ⟨⟨isWord_of_isYear hyear, markAfter [] before,
      markAfter (run.reverse ++ before.reverse) after, ?_, hbefore, hafter⟩, hyear⟩
    rw [markAfter_append, List.append_nil, markAfter_append]

/-! ## What stands apart is found -/

theorem isDigit_eq_false {c : Char} (h : isWord .v16 c = false) : c.isDigit = false :=
  Bool.eq_false_iff.mpr fun hdigit => Bool.false_ne_true (h.symm.trans (isWord_of_isDigit hdigit))

theorem afterDecade_append_eq_false (h : meetsWord before = false) (passed : List Char)
    (hpassed : passed.length ≤ 2) : afterDecade (passed ++ before) = false := by
  cases before with
  | nil =>
    rcases passed with _ | ⟨a, _ | ⟨b, _ | ⟨c, more⟩⟩⟩
    · rfl
    · rfl
    · rfl
    · simp at hpassed
  | cons d earlier =>
    -- at most two characters have passed, so `d` would be a digit of the decade
    have hd : d.isDigit = false := isDigit_eq_false h
    rcases passed with _ | ⟨a, _ | ⟨b, _ | ⟨c, more⟩⟩⟩
    · rcases earlier with _ | ⟨e, _ | ⟨f, earlier⟩⟩ <;> simp [afterDecade, hd]
    · rcases earlier with _ | ⟨e, earlier⟩ <;> simp [afterDecade, hd]
    · simp [afterDecade, hd]
    · simp at hpassed

theorem markAfter_three (h : meetsWord before = false) (a b c : Char) (rest : List Char) :
    markAfter before (a :: b :: c :: rest) = a :: b :: c :: markAfter (c :: b :: a :: before) rest := by
  have h₀ : afterDecade before = false := afterDecade_append_eq_false h [] (by decide)
  have h₁ : afterDecade (a :: before) = false := afterDecade_append_eq_false h [a] (Nat.le_succ 1)
  have h₂ : afterDecade (b :: a :: before) = false := afterDecade_append_eq_false h [b, a] le_rfl
  simp only [markAfter, h₀, h₁, h₂, Bool.and_false, Bool.false_eq_true, if_false]

theorem afterDecade_three {a b c : Char} (hdigits : [a, b, c].all Char.isDigit)
    (h : meetsWord before = false) : afterDecade (c :: b :: a :: before) := by
  rw [afterDecade, hdigits, h]
  rfl

theorem afterDecade_reverse_append (h : WritesYearOrDecade run)
    (hbefore : meetsWord before = false) :
    afterDecade (run.reverse ++ before) = decide (run.length = 3) := by
  obtain ⟨a, b, c, hdigits, rfl | ⟨d, rfl, -⟩⟩ := h
  · exact afterDecade_three hdigits hbefore
  · -- the last three characters begin within a word
    have ha : isWord .v16 a := isWord_of_isDigit (List.all_eq_true.mp hdigits a List.mem_cons_self)
    change ([b, c, d].all Char.isDigit && !isWord .v16 a) = false
    rw [ha]
    exact Bool.and_false _

theorem markAfter_four {a b c : Char} (hdigits : [a, b, c].all Char.isDigit)
    (h : meetsWord before = false) (d : Char) :
    markAfter before [a, b, c, d] = [a, b, c, if isUnknownMark d then 'x' else d] := by
  rw [markAfter_three h, markAfter, afterDecade_three hdigits h, Bool.and_true]
  rfl

/-- Marking decades makes years of years and decades, and of nothing else. -/
theorem isYear_markAfter_iff (hbefore : meetsWord before = false) (hx : 'x' ∉ run) :
    isYear (markAfter before run) ↔ WritesYearOrDecade run := by
  rw [isYear_iff, length_markAfter]
  have hdigit : ∀ c ∈ run, isYearDigit c → c.isDigit := fun c hc hyear =>
    isDigit_of_isYearDigit hyear fun heq => hx (heq ▸ hc)
  constructor
  · rintro ⟨hlength, hall⟩
    have hthree : ∀ a b c rest, run = a :: b :: c :: rest → [a, b, c].all Char.isDigit := by
      rintro a b c rest rfl
      rw [markAfter_three hbefore] at hall
      refine List.all_eq_true.mpr fun e he => hdigit e ?_ (hall e ?_)
      · exact List.mem_append_left rest he
      · exact List.mem_append_left (markAfter _ rest) he
    obtain ⟨a, b, c, rfl | ⟨d, rfl⟩⟩ := exists_of_length hlength
    · exact ⟨a, b, c, hthree a b c [] rfl, Or.inl rfl⟩
    · have hdigits := hthree a b c [d] rfl
      refine ⟨a, b, c, hdigits, Or.inr ⟨d, rfl, ?_⟩⟩
      rw [or_iff_not_imp_right]
      intro hmark
      rw [markAfter_four hdigits hbefore, if_neg hmark] at hall
      exact hdigit d (by simp) (hall d (by simp))
  · rintro ⟨a, b, c, hdigits, rfl | ⟨d, rfl, hd⟩⟩
    · refine ⟨Or.inl rfl, ?_⟩
      rw [markAfter_three hbefore]
      exact fun e he => isYearDigit_of_isDigit (List.all_eq_true.mp hdigits e he)
    · refine ⟨Or.inr rfl, ?_⟩
      have hyears : ∀ e ∈ [a, b, c], isYearDigit e := fun e he =>
        isYearDigit_of_isDigit (List.all_eq_true.mp hdigits e he)
      have hlast : isYearDigit (if isUnknownMark d then 'x' else d) := by
        split
        · rfl
        · next hmark => exact isYearDigit_of_isDigit (hd.resolve_right hmark)
      rw [markAfter_four hdigits hbefore]
      exact List.forall_mem_append.mpr ⟨hyears, List.forall_mem_singleton.mpr hlast⟩

theorem standsApart_iff_isYear (hx : 'x' ∉ run) :
    StandsApart before run after ↔
      isYear (markAfter before.reverse run) ∧ meetsWord (markAfter [] before).reverse = false ∧
        meetsWord (markAfter (run.reverse ++ before.reverse) after) = false := by
  rw [meetsWord_reverse_markAfter, meetsWord_markAfter, Bool.or_eq_false_iff, Bool.or_eq_false_iff]
  constructor
  · intro h
    refine ⟨(isYear_markAfter_iff h.left hx).mpr h.shape, ⟨h.left, h.unmarked⟩, h.right, ?_⟩
    rw [afterDecade_reverse_append h.shape h.left, Bool.and_eq_false_iff, decide_eq_false_iff_not]
    exact or_iff_not_imp_left.mpr fun hmark hlength => h.closed hlength (Bool.not_eq_false _ ▸ hmark)
  · rintro ⟨hyear, ⟨hleft, hunmarked⟩, hright, hclosed⟩
    have hshape := (isYear_markAfter_iff hleft hx).mp hyear
    rw [afterDecade_reverse_append hshape hleft] at hclosed
    refine ⟨hshape, hleft, hunmarked, hright, ?_⟩
    intro hlength hmark
    rw [hmark, decide_eq_true hlength] at hclosed
    cases hclosed

/-- The years in a text without the letter x come from what stands apart in it. -/
theorem mem_yearsIn_iff_standsApart {year l : List Char} (hx : 'x' ∉ l) :
    year ∈ yearsIn l ↔
      ∃ before run after, l = before ++ (run ++ after) ∧ markAfter before.reverse run = year ∧
        StandsApart before run after := by
  rw [mem_yearsIn_iff]
  refine exists₃_congr fun before run after => and_congr_right fun heq => ?_
  have hrun : 'x' ∉ run := fun hmem =>
    hx (heq ▸ List.mem_append_right _ (List.mem_append_left _ hmem))
  rw [standsApart_iff_isYear hrun]
  exact and_congr_right fun hyear => by rw [hyear]

/-! ## What is found gives a date -/

/-- A text in which no letter passes for an unknown digit and no number begins with 0. -/
structure PlainDigits (l : List Char) : Prop where
  known : 'x' ∉ l
  leading : ∀ number ∈ l.splitOnP (fun c => !c.isDigit), number.head? ≠ some '0'

theorem PlainDigits.ne_zero {c : Char} (h : PlainDigits (before ++ c :: after))
    (hbefore : meetsWord before.reverse = false) (hc : c.isDigit) : c ≠ '0' := by
  have hdigit : before.reverse.head?.any Char.isDigit = false := by
    cases hrev : before.reverse with
    | nil => rfl
    | cons d earlier =>
      rw [hrev] at hbefore
      exact isDigit_eq_false hbefore
  -- what begins at the edge of a word is one of the numbers of the text
  have hnumber : c :: after.takeWhile Char.isDigit ∈
      (before ++ c :: after).splitOnP fun c => !c.isDigit := by
    refine mem_splitOnP_iff.mpr ⟨?_, before, after.dropWhile Char.isDigit, ?_, hdigit,
      any_head?_dropWhile _ after⟩
    · exact List.forall_mem_cons.mpr ⟨hc, fun d => List.mem_takeWhile_imp⟩
    · rw [List.cons_append, List.takeWhile_append_dropWhile]
  rintro rfl
  exact h.leading _ hnumber rfl

theorem StandsApart.exists_head (h : StandsApart before run after) :
    ∃ c rest, run = c :: rest ∧ c.isDigit ∧ c ∈ markAfter before.reverse run := by
  obtain ⟨a, b, c, hdigits, hrun⟩ := h.shape
  have ha : a.isDigit := List.all_eq_true.mp hdigits a List.mem_cons_self
  rcases hrun with rfl | ⟨d, rfl, -⟩
  · refine ⟨a, [b, c], rfl, ha, ?_⟩
    rw [markAfter_three h.left]
    exact List.mem_cons_self
  · refine ⟨a, [b, c, d], rfl, ha, ?_⟩
    rw [markAfter_three h.left]
    exact List.mem_cons_self

theorem PlainDigits.start_ne_zero {l year : List Char} (h : PlainDigits l) (hyear : year ∈ yearsIn l) :
    valueWith '0' year ≠ 0 := by
  obtain ⟨before, run, after, rfl, rfl, hapart⟩ := (mem_yearsIn_iff_standsApart h.known).mp hyear
  obtain ⟨c, rest, rfl, hdigit, hmem⟩ := hapart.exists_head
  have hx : c ≠ 'x' := by
    rintro rfl
    cases hdigit
  have hfilled := isDigit_of_mem_fillIn (List.of_mem_filter hyear) (by decide : '0'.isDigit)
  have hpos := (ofDigitChars_pos_iff hfilled 0).mpr
    (Or.inr ⟨c, List.mem_map.mpr ⟨c, hmem, if_neg hx⟩, h.ne_zero hapart.left hdigit⟩)
  rw [valueWith]
  omega

theorem isSome_resolve?_iff {start stop : Int} (hq : type.map Char.toLower ≠ some 'q') :
    (resolve? start stop type).isSome ↔ start ≠ 0 := by
  unfold resolve?
  dsimp only
  rw [if_neg hq]
  split_ifs with hstart <;> simp [hstart]

theorem isSome_ofText?_iff (h : PlainDigits text.toList)
    (hq : type ≠ some 'q' ∧ type ≠ some 'Q') :
    (ofText? text type).isSome ↔ ∃ year, year ∈ yearsIn text.toList := by
  have hlower : type.map Char.toLower ≠ some 'q' := fun heq =>
    (map_toLower_eq_some heq).elim hq.1 hq.2
  have hstart : ∀ year ∈ yearsIn text.toList, valueWith '0' year ≠ 0 := fun _ => h.start_ne_zero
  rw [ofText?_eq_dateOf]
  cases hyears : yearsIn text.toList with
  | nil => simp [dateOf]
  | cons first more =>
    rw [hyears] at hstart
    rw [dateOf, isSome_resolve?_iff hlower]
    exact iff_of_true (hstart first List.mem_cons_self) ⟨first, List.mem_cons_self⟩

/-- **Which texts give a date.** In a text without the letter x and without leading zeros, and with any
type but the questionable one, there is a date exactly if a year or a decade stands apart. Plain years do,
unless marking decades makes them part of a longer word. -/
theorem isSome_ofText?_of_plainDigits (h : PlainDigits text.toList)
    (hq : type ≠ some 'q' ∧ type ≠ some 'Q') :
    ((ofText? text type).isSome ↔
      ∃ before run after, text.toList = before ++ (run ++ after) ∧ StandsApart before run after) ∧
    ∀ before run after, text.toList = before ++ (run ++ after) → PlainYear before run after →
      ((∃ mark rest, after = mark ++ rest ∧ StandsApart before (run ++ mark) rest) ↔
        ¬ Fused before run after) ∧
      (¬ Fused before run after → (ofText? text type).isSome) := by
  have hiff : (ofText? text type).isSome ↔
      ∃ before run after, text.toList = before ++ (run ++ after) ∧ StandsApart before run after := by
    rw [isSome_ofText?_iff h hq]
    constructor
    · rintro ⟨year, hyear⟩
      obtain ⟨before, run, after, heq, -, hapart⟩ := (mem_yearsIn_iff_standsApart h.known).mp hyear
      exact ⟨before, run, after, heq, hapart⟩
    · rintro ⟨before, run, after, heq, hapart⟩
      exact ⟨_, (mem_yearsIn_iff_standsApart h.known).mpr ⟨before, run, after, heq, rfl, hapart⟩⟩
  refine ⟨hiff, ?_⟩
  intro before run after heq hplain
  refine ⟨hplain.standsApart_iff, fun hfused => ?_⟩
  obtain ⟨mark, rest, rfl, hapart⟩ := hplain.exists_standsApart hfused
  exact hiff.mpr ⟨before, run ++ mark, rest, by rw [heq, List.append_assoc], hapart⟩

/-- A decade whose mark is no edge of a word any more, but is followed by one. -/
theorem isSome_ofText?_of_plainDigits_decade :
    PlainDigits "195-?, 1960".toList ∧
    PlainYear [] "195".toList "-?, 1960".toList ∧
    ¬ Fused [] "195".toList "-?, 1960".toList ∧
    (ofText? "195-?, 1960" none).isSome := by
  have hdigits : PlainDigits "195-?, 1960".toList := ⟨by decide, by decide⟩
  have hplain : PlainYear [] "195".toList "-?, 1960".toList := ⟨by decide, by decide, rfl, rfl⟩
  have hfused : ¬ Fused [] "195".toList "-?, 1960".toList := by
    rintro (hmarked | ⟨-, m, rest, heq, -, hword⟩)
    · exact absurd hmarked (by decide)
    · obtain rfl : "?, 1960".toList = rest := (List.cons.inj heq).2
      exact absurd hword (by decide)
  have htype : (none : Option Char) ≠ some 'q' ∧ (none : Option Char) ≠ some 'Q' := by decide
  exact ⟨hdigits, hplain, hfused,
    ((isSome_ofText?_of_plainDigits hdigits htype).2 _ _ _ rfl hplain).2 hfused⟩

/-- Two plain years, of which the first is fused with the second, give no date. -/
theorem plainYears_overlooked :
    PlainDigits "195-1955".toList ∧
    PlainYear [] "195".toList "-1955".toList ∧
    PlainYear "195-".toList "1955".toList [] ∧
    ofText? "195-1955" none = none ∧
    Derivation.publicationDate.apply
      (build ⟨[], [⟨"264", ' ', '1', [⟨'c', "195-1955"⟩]⟩]⟩
        (Derivation.publicationDate.addInterest .least)) .standard [] = [] := by
  refine ⟨⟨by decide, by decide⟩, ⟨by decide, by decide, rfl, rfl⟩, ⟨by decide, by decide, rfl, rfl⟩,
    by decide, ?_⟩
  rw [apply_publicationDate_eq_append supplied_publicationDate]
  decide

end MarcHarvest.PublicationDate
