import MarcHarvest.Proofs.Derivation.YearReadings

/-!
# Signs of years

What is neither blank nor digit makes a coded year unusable, with one exception: a sign in front of
the digits is read with them (`WritesYear`). A year with a minus is below 0 and not, as an unusable
one, equal to 0, so it passes for a start year. This is the only way to a date with a year that is
not positive (`start_neg_iff`): texts of publication statements bring digits only, and an end year
counts only if it is above the start.
-/

namespace MarcHarvest.PublicationDate

open Index Text

/-! ## Blanks, digits and signs -/

theorem trimBlanks_fillUnknown {digit : Char} (hdigit : digit.isDigit) (l : List Char) :
    trimBlanks (fillUnknown digit l) = fillUnknown digit (trimBlanks l) := by
  refine trimBlanks_map (fun c => ?_) l
  split
  · next hunknown =>
    rw [isBlank_of_isDigit hdigit]
    rcases hunknown with rfl | rfl <;> rfl
  · rfl

theorem ofDigitChars_pos_iff {l : List Char} (h : ∀ c ∈ l, c.isDigit) (n : Nat) :
    0 < Nat.ofDigitChars 10 l n ↔ 0 < n ∨ ∃ c ∈ l, c ≠ '0' := by
  induction l generalizing n with
  | nil => simp
  | cons c l ih =>
    have hdigit := Char.isDigit_iff_toNat.mp (h c List.mem_cons_self)
    have hzero : c = '0' ↔ c.toNat = '0'.toNat := Char.toNat_inj.symm
    rw [Nat.ofDigitChars_cons, ih fun d hd => h d (List.mem_cons_of_mem c hd),
      List.exists_mem_cons_iff, ← or_assoc, Ne, hzero]
    refine or_congr_left ?_
    omega

theorem naturalYear_pos_iff {l : List Char} :
    0 < naturalYear l ↔ (∀ c ∈ l, c.isDigit) ∧ ∃ c ∈ l, c ≠ '0' := by
  by_cases h : (!l.isEmpty && l.all Char.isDigit) = true
  · have hdigits : ∀ c ∈ l, c.isDigit := by
      rw [Bool.and_eq_true, List.all_eq_true] at h
      exact h.2
    have hpos := ofDigitChars_pos_iff hdigits 0
    rw [naturalYear, if_pos h]
    refine Iff.trans hpos ⟨fun hor => ⟨hdigits, hor.resolve_left (Nat.lt_irrefl 0)⟩, fun h => ?_⟩
    exact Or.inr h.2
  · rw [naturalYear, if_neg h]
    refine ⟨fun hpos => absurd hpos (Nat.lt_irrefl 0), ?_⟩
    rintro ⟨hdigits, c, hc, -⟩
    refine absurd ?_ h
    rw [Bool.and_eq_true, List.all_eq_true]
    exact ⟨by simpa using List.ne_nil_of_mem hc, hdigits⟩

theorem readYear_neg_iff {l : List Char} :
    readYear l < 0 ↔ ∃ rest, trimBlanks l = '-' :: rest ∧ 0 < naturalYear rest := by
  unfold readYear
  split
  · next rest heq =>
    rw [heq]
    refine ⟨fun hneg => ⟨rest, rfl, by omega⟩, ?_⟩
    rintro ⟨rest', hcons, hpos⟩
    obtain rfl := (List.cons.inj hcons).2
    omega
  · next rest heq =>
    rw [heq]
    refine ⟨fun hneg => by omega, ?_⟩
    rintro ⟨rest', hcons, -⟩
    exact absurd (List.cons.inj hcons).1 (by decide)
  · next hminus hplus =>
    refine ⟨fun hneg => by omega, ?_⟩
    rintro ⟨rest, hcons, -⟩
    exact absurd hcons (hminus rest)

theorem readYear_nonneg {l : List Char} (h : '-' ∉ l) : 0 ≤ readYear l := by
  by_contra hneg
  obtain ⟨rest, heq, -⟩ := readYear_neg_iff.mp (Int.not_le.mp hneg)
  exact h ((infix_trimBlanks l).subset (heq ▸ List.mem_cons_self))

theorem exists_sign_of_readYear_ne_zero {l : List Char} (h : readYear l ≠ 0) :
    ∃ sign rest, trimBlanks l = sign ++ rest ∧ sign ∈ [[], ['-'], ['+']] ∧ 0 < naturalYear rest := by
  unfold readYear at h
  split at h
  · next rest heq => exact ⟨['-'], rest, heq, by simp, by omega⟩
  · next rest heq => exact ⟨['+'], rest, heq, by simp, by omega⟩
  · exact ⟨[], trimBlanks l, rfl, by simp, by omega⟩

/-! ## Coded years -/

/-- Digits, known or not, with blanks around them and perhaps a sign before them. -/
def WritesYear (slot : List Char) : Prop :=
  ∃ sign rest, trimBlanks slot = sign ++ rest ∧ sign ∈ [[], ['-'], ['+']] ∧ rest ≠ [] ∧
    ∀ c ∈ rest, c.isDigit ∨ c = 'u' ∨ c = '|'

/-- A minus before digits of which one is known and not 0. -/
def WritesMinus (slot : List Char) : Prop :=
  ∃ rest, trimBlanks slot = '-' :: rest ∧ (∀ c ∈ rest, c.isDigit ∨ c = 'u' ∨ c = '|') ∧
    ∃ c ∈ rest, c.isDigit ∧ c ≠ '0'

theorem eq_of_fill_eq {digit sign c : Char} (hdigit : digit.isDigit) (hsign : ¬ sign.isDigit)
    (h : (if c = 'u' ∨ c = '|' then digit else c) = sign) : c = sign := by
  by_cases hunknown : c = 'u' ∨ c = '|'
  · rw [if_pos hunknown] at h
    exact absurd (h ▸ hdigit) hsign
  · rwa [if_neg hunknown] at h

theorem writesYear_of_readYear_ne_zero {digit : Char} (hdigit : digit.isDigit) {slot : List Char}
    (h : readYear (fillUnknown digit slot) ≠ 0) : WritesYear slot := by
  obtain ⟨sign, rest, heq, hsign, hpos⟩ := exists_sign_of_readYear_ne_zero h
  obtain ⟨hdigits, c, hc, -⟩ := naturalYear_pos_iff.mp hpos
  rw [trimBlanks_fillUnknown hdigit, fillUnknown, List.map_eq_append_iff] at heq
  obtain ⟨sign', rest', heq', hsign', rfl⟩ := heq
  refine ⟨sign', rest', heq', ?_, ?_, (forall_isDigit_fillUnknown_iff hdigit).mp hdigits⟩
  · have hone : ∀ s : Char, ¬ s.isDigit → sign = [s] → sign' = [s] := by
      intro s hs hsigns
      obtain ⟨d, rfl, hd⟩ := List.map_eq_singleton_iff.mp (hsign'.trans hsigns)
      rw [eq_of_fill_eq hdigit hs hd]
    simp only [List.mem_cons, List.not_mem_nil, or_false] at hsign ⊢
    rcases hsign with hnil | hminus | hplus
    · exact Or.inl (List.map_eq_nil_iff.mp (hsign'.trans hnil))
    · exact Or.inr (Or.inl (hone '-' (by decide) hminus))
    · exact Or.inr (Or.inr (hone '+' (by decide) hplus))
  · rintro rfl
    cases hc

theorem filled_slot? (digit : Char) (slot : List Char) :
    ((slot? slot).map fun l => readYear (fillIn 'u' digit l)).getD 0 =
      if slot.contains '#' || slot.all (· == '|') then 0 else readYear (fillUnknown digit slot) := by
  rw [slot?]
  split
  · rfl
  · rw [Option.map_some, Option.getD_some, fillIn_fillIn]

theorem years_of_not_writesYear {slot : List Char} (h : ¬ WritesYear slot) :
    startYear 'u' (slot? slot) = 0 ∧ stopYear 'u' (slot? slot) = 0 := by
  have hzero : ∀ digit : Char, digit.isDigit →
      ((slot? slot).map fun l => readYear (fillIn 'u' digit l)).getD 0 = 0 := by
    intro digit hdigit
    rw [filled_slot?]
    split
    · rfl
    · by_contra hne
      exact h (writesYear_of_readYear_ne_zero hdigit hne)
  exact ⟨hzero '0' (by decide), hzero '9' (by decide)⟩

theorem naturalYear_fillUnknown_pos_iff {l : List Char} :
    0 < naturalYear (fillUnknown '0' l) ↔
      (∀ c ∈ l, c.isDigit ∨ c = 'u' ∨ c = '|') ∧ ∃ c ∈ l, c.isDigit ∧ c ≠ '0' := by
  rw [naturalYear_pos_iff, forall_isDigit_fillUnknown_iff (by decide)]
  simp only [fillUnknown, List.mem_map, exists_exists_and_eq_and]
  refine and_congr_right fun hallowed => exists_congr fun c => and_congr_right fun hc => ?_
  by_cases hunknown : c = 'u' ∨ c = '|'
  · rw [if_pos hunknown]
    rcases hunknown with rfl | rfl <;> decide
  · rw [if_neg hunknown]
    exact ⟨fun hne => ⟨(hallowed c hc).resolve_right hunknown, hne⟩, fun h => h.2⟩

theorem readYear_fillUnknown_neg_iff {slot : List Char} :
    readYear (fillUnknown '0' slot) < 0 ↔ WritesMinus slot := by
  rw [readYear_neg_iff, trimBlanks_fillUnknown (by decide)]
  constructor
  · rintro ⟨rest, heq, hpos⟩
    obtain ⟨c, rest', heq', hc, rfl⟩ := List.map_eq_cons_iff.mp heq
    obtain rfl := eq_of_fill_eq (by decide) (by decide) hc
    exact ⟨rest', heq', naturalYear_fillUnknown_pos_iff.mp hpos⟩
  · rintro ⟨rest, heq, hrest⟩
    exact ⟨fillUnknown '0' rest, by rw [heq]; rfl, naturalYear_fillUnknown_pos_iff.mpr hrest⟩

theorem startYear_neg_iff {slot : List Char} :
    startYear 'u' (slot? slot) < 0 ↔ WritesMinus slot := by
  rw [← readYear_fillUnknown_neg_iff]
  change ((slot? slot).map fun l => readYear (fillIn 'u' '0' l)).getD 0 < 0 ↔ _
  rw [filled_slot?]
  split
  · next habsent =>
    refine ⟨fun h => absurd h (by decide), fun hneg => ?_⟩
    obtain ⟨rest, heq, hallowed, -⟩ := readYear_fillUnknown_neg_iff.mp hneg
    rw [Bool.or_eq_true, List.contains_iff_mem, List.all_eq_true] at habsent
    rcases habsent with hmarker | hbars
    · -- the marker of a blank is no blank itself, so it would be among the digits
      have hmem := mem_trimBlanks hmarker rfl
      rw [heq, List.mem_cons] at hmem
      rcases hmem with hminus | hmem
      · exact absurd hminus (by decide)
      · exact absurd (hallowed _ hmem) (by decide)
    · have hminus := hbars '-' ((infix_trimBlanks slot).subset (heq ▸ List.mem_cons_self))
      exact absurd hminus (by decide)
  · rfl

/-! ## Years in texts -/

theorem isYearDigit_of_yearAt?_eq_some {l run : List Char} (h : yearAt? l = some run) :
    ∀ c ∈ run, isYearDigit c := by
  have hbegins : ∀ n, beginsYear n l → ∀ c ∈ l.take n, isYearDigit c := by
    intro n hn
    rw [beginsYear, Bool.and_eq_true, Bool.and_eq_true] at hn
    exact List.all_eq_true.mp hn.1.2
  rw [yearAt?] at h
  split at h
  · next hfour =>
    cases h
    exact hbegins 4 hfour
  · split at h
    · next hthree =>
      cases h
      exact hbegins 3 hthree
    · cases h

theorem textYears?_nonneg {text : String} {type : Option Char} {c : Int × Int}
    (h : textYears? text type = some c) : 0 ≤ c.1 := by
  obtain ⟨first, last?, rfl, hfirst, -⟩ := exists_runs_of_textYears? h
  obtain ⟨l, hl⟩ := Checked.exists_yearAt?_of_mem_yearRuns hfirst
  refine readYear_nonneg fun hminus => ?_
  obtain ⟨d, hd, heq⟩ := List.mem_map.mp hminus
  by_cases hx : d = 'x'
  · rw [if_pos hx] at heq
    exact absurd heq (by decide)
  · rw [if_neg hx] at heq
    subst heq
    exact absurd (isYearDigit_of_yearAt?_eq_some hl '-' hd) (by decide)

/-! ## Signs of dates -/

def Years.all (y : Years) : List Int := y.start :: y.stop.toList

theorem IsDate.forall_pos_iff {type : Option Char} {y : Years} (h : IsDate type y) :
    (∀ n ∈ y.all, 1 ≤ n) ↔ 0 < y.start := by
  constructor
  · intro hall
    exact hall y.start List.mem_cons_self
  · intro hstart n hn
    rw [Years.all, List.mem_cons, Option.mem_toList] at hn
    rcases hn with rfl | hn
    · omega
    · rcases h.stop n hn with hlt | ⟨-, hopen⟩ <;> omega

theorem start_neg_iff {r : RecordView} {y : Years} (h : date? r = some y.text) :
    y.start < 0 ↔ codedDate? (codedPayload r) ≠ none ∧
      WritesMinus (((codedPayload r).drop 7).take 4) := by
  cases hcoded : codedDate? (codedPayload r) with
  | none =>
    rw [date?_of_not_coded hcoded, firstDate?] at h
    obtain ⟨text, -, htext⟩ := List.exists_of_findSome?_eq_some h
    rw [ofText?_eq, Option.bind_eq_some_iff] at htext
    obtain ⟨c, hc, hresolve⟩ := htext
    obtain ⟨y', hy', hstart, -⟩ := exists_years_of_resolve? hresolve
    obtain rfl := Years.text_injective hy'
    have hnonneg := textYears?_nonneg hc
    exact ⟨fun hneg => by omega, fun h => absurd rfl h.1⟩
  | some d =>
    rw [date?_of_coded hcoded, Option.some_inj] at h
    subst h
    obtain ⟨type, -, hdate⟩ := Option.bind_eq_some_iff.mp hcoded
    rw [coded?_eq, Option.bind_eq_some_iff] at hdate
    obtain ⟨c, hc, hresolve⟩ := hdate
    obtain ⟨y', hy', hstart, hdate, -⟩ := exists_years_of_resolve? hresolve
    obtain rfl := Years.text_injective hy'
    have hfirst : c.1 = startYear 'u' (slot? (((codedPayload r).drop 7).take 4)) := by
      unfold codedYears? at hc
      split_ifs at hc <;> cases hc
      · rfl
      · rfl
      · exact absurd hstart hdate.start
    rw [hstart, hfirst, startYear_neg_iff]
    exact ⟨fun hminus => ⟨Option.some_ne_none _, hminus⟩, fun h => h.2⟩

variable {i : Interest}

/-- **Where years are positive.** On every index that holds what it reads, the derivation keeps the
values that it is given and appends at most one date. Its years fit in four characters, and all are
positive unless the date is coded and its first year is written with a minus. A coded year counts for
nothing if it holds anything but digits, one sign before them and blanks around them. -/
theorem apply_publicationDate_signs (hi : Derivation.publicationDate.Supplied i) (r : RecordView)
    (languages : LanguageTable) (values : List String) :
    Derivation.publicationDate.apply (build r i) languages values =
      values ++ (date? r).toList ∧
    (∀ date ∈ date? r, ∃ y : Years, date = y.text ∧ (∀ n ∈ y.all, FitsSlot n) ∧
      ((∀ n ∈ y.all, 1 ≤ n) ↔ ¬ (codedDate? (codedPayload r) ≠ none ∧
        WritesMinus (((codedPayload r).drop 7).take 4)))) ∧
    ∀ slot, startYear 'u' (slot? slot) ≠ 0 ∨ stopYear 'u' (slot? slot) ≠ 0 → WritesYear slot := by
  refine ⟨apply_publicationDate_eq_append hi r languages values, ?_, ?_⟩
  · intro date hdate
    obtain ⟨c, hc, y, rfl, hstart, hy, hstop⟩ := exists_years_of_date? hdate
    obtain ⟨hfits, hfits'⟩ := fitsSlot_of_mem_compared hc
    refine ⟨y, rfl, ?_, ?_⟩
    · intro n hn
      rw [Years.all, List.mem_cons, Option.mem_toList] at hn
      rcases hn with rfl | hn
      · exact hstart ▸ hfits
      · rcases hstop n hn with rfl | rfl
        · exact hfits'
        · exact ⟨by decide, by decide⟩
    · have hne := hy.start
      rw [hy.forall_pos_iff, ← start_neg_iff hdate]
      omega
  · intro slot hslot
    by_contra hwrites
    obtain ⟨hstart, hstop⟩ := years_of_not_writesYear hwrites
    exact hslot.elim (fun h => h hstart) fun h => h hstop

/-- Coded dates with signs: a plus is read over, a minus counts. -/
def signedYears : RecordView where
  control := [("008", "871002d-19u+200xx")]
  fields := []

theorem apply_publicationDate_signs_signedYears :
    Derivation.publicationDate.Supplied (Derivation.publicationDate.addInterest .least) ∧
    Derivation.publicationDate.apply
      (build signedYears (Derivation.publicationDate.addInterest .least)) .standard ["kept"] =
        ["kept", "-190/200"] ∧
    WritesMinus ['-', '1', '9', 'u'] ∧ WritesYear ['+', '2', '0', '0'] := by
  have hsigns := apply_publicationDate_signs supplied_publicationDate signedYears .standard ["kept"]
  have hdate : date? signedYears = some "-190/200" := by decide
  obtain ⟨y, htext, -, hpositive⟩ := hsigns.2.1 _ hdate
  obtain rfl : ⟨-190, some 200⟩ = y := Years.text_injective htext
  refine ⟨supplied_publicationDate, ?_, ?_, ?_⟩
  · rw [hsigns.1, hdate]
    rfl
  · have hsome : ¬ ∀ n ∈ (⟨-190, some 200⟩ : Years).all, 1 ≤ n := by decide
    exact (not_not.mp fun h => hsome (hpositive.mpr h)).2
  · exact hsigns.2.2 _ (Or.inl (by decide))

/-- Years below 0 and 0 itself get into dates. -/
theorem not_forall_years_pos :
    Derivation.publicationDate.apply
      (build ⟨[("008", "871002s-198    xx  a         f00000 jpn  ")], []⟩
        (Derivation.publicationDate.addInterest .least)) .standard [] =
        [(⟨-198, none⟩ : Years).text] ∧
    Derivation.publicationDate.apply
      (build ⟨[("008", "871002d-19u0000xx  a         f00000 jpn  ")], []⟩
        (Derivation.publicationDate.addInterest .least)) .standard [] =
        [(⟨-190, some 0⟩ : Years).text] := by
  constructor
  · rw [apply_publicationDate_eq_append supplied_publicationDate]
    decide
  · rw [apply_publicationDate_eq_append supplied_publicationDate]
    decide

end MarcHarvest.PublicationDate
