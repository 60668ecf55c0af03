import MarcHarvest.Proofs.Derivation.Years

/-!
# What coded years can mean

In a coded year `u` and the bar stand for a digit that is not known, so its four characters mean a
set of years (`readings`). A year gets no smaller when one of its digits grows, so putting 0 for what
is unknown gives the least of them and putting 9 the greatest (`isLeast_readings`,
`isGreatest_readings`).

Coded dates therefore round outward and no further than they have to: a start year is the least one
that its characters can mean, an end year the greatest (`codedDate?_rounds`).
-/

namespace MarcHarvest.PublicationDate

open Text

/-! ## Readings -/

/-- Whether a character of a coded year can mean the digit `d`. -/
def Allows (c d : Char) : Prop := d.isDigit ∧ (c = 'u' ∨ c = '|' ∨ c = d)

/-- The years that are written by putting digits for what is unknown. -/
def readings (slot : List Char) : Set Nat :=
  {year | ∃ digits, List.Forall₂ Allows slot digits ∧ year = Nat.ofDigitChars 10 digits 0}

/-- Four digits, of which some or all may be unknown, but not all filled with bars. -/
structure IsSlot (slot : List Char) : Prop where
  length : slot.length = 4
  allowed : ∀ c ∈ slot, c.isDigit ∨ c = 'u' ∨ c = '|'
  used : ∃ c ∈ slot, c ≠ '|'

/-- A coded year with `digit` for all that is unknown. -/
def fillUnknown (digit : Char) (slot : List Char) : List Char :=
  slot.map fun c => if c = 'u' ∨ c = '|' then digit else c

theorem fillIn_fillIn (digit : Char) (slot : List Char) :
    fillIn 'u' digit (fillIn '|' 'u' slot) = fillUnknown digit slot := by
  unfold fillIn fillUnknown
  rw [List.map_map]
  refine List.map_congr_left fun c _ => ?_
  rw [Function.comp_apply]
  by_cases hbar : c = '|'
  · rw [if_pos hbar, if_pos rfl, if_pos (Or.inr hbar)]
  · rw [if_neg hbar]
    by_cases hu : c = 'u'
    · rw [if_pos hu, if_pos (Or.inl hu)]
    · rw [if_neg hu, if_neg (not_or.mpr ⟨hu, hbar⟩)]

theorem isDigit_fill_iff {digit : Char} (hdigit : digit.isDigit) {c : Char} :
    (if c = 'u' ∨ c = '|' then digit else c).isDigit ↔ c.isDigit ∨ c = 'u' ∨ c = '|' := by
  by_cases hunknown : c = 'u' ∨ c = '|'
  · rw [if_pos hunknown]
    exact ⟨fun _ => Or.inr hunknown, fun _ => hdigit⟩
  · rw [if_neg hunknown]
    exact ⟨Or.inl, fun h => h.resolve_right hunknown⟩

theorem forall_isDigit_fillUnknown_iff {digit : Char} (hdigit : digit.isDigit) {l : List Char} :
    (∀ c ∈ fillUnknown digit l, c.isDigit) ↔ ∀ c ∈ l, c.isDigit ∨ c = 'u' ∨ c = '|' := by
  rw [fillUnknown, List.forall_mem_map]
  exact forall₂_congr fun c _ => isDigit_fill_iff hdigit

/-! ## The least and the greatest reading -/

theorem forall₂_fillUnknown {slot : List Char} (h : ∀ c ∈ slot, c.isDigit ∨ c = 'u' ∨ c = '|')
    {digit : Char} (hdigit : digit.isDigit) :
    List.Forall₂ Allows slot (fillUnknown digit slot) := by
  rw [fillUnknown, List.forall₂_map_right_iff, List.forall₂_same]
  intro c hc
  by_cases hunknown : c = 'u' ∨ c = '|'
  · rw [if_pos hunknown]
    exact ⟨hdigit, hunknown.imp_right Or.inl⟩
  · rw [if_neg hunknown]
    exact ⟨(h c hc).resolve_right hunknown, Or.inr (Or.inr rfl)⟩

theorem ofDigitChars_le {a b : List Char}
    (h : List.Forall₂ (fun c d : Char => c.toNat ≤ d.toNat) a b) {m n : Nat} (hmn : m ≤ n) :
    Nat.ofDigitChars 10 a m ≤ Nat.ofDigitChars 10 b n := by
  induction h generalizing m n with
  | nil => exact hmn
  | cons hcd _ ih =>
    rw [Nat.ofDigitChars_cons, Nat.ofDigitChars_cons]
    exact ih (by omega)

theorem fillUnknown_zero_le {slot digits : List Char} (h : List.Forall₂ Allows slot digits) :
    List.Forall₂ (fun c d : Char => c.toNat ≤ d.toNat) (fillUnknown '0' slot) digits := by
  rw [fillUnknown, List.forall₂_map_left_iff]
  refine h.imp fun c d ⟨hd, hc⟩ => ?_
  split
  · exact (Char.isDigit_iff_toNat.mp hd).1
  · next hunknown =>
    obtain rfl := (or_assoc.mpr hc).resolve_left hunknown
    exact le_rfl

theorem le_fillUnknown_nine {slot digits : List Char} (h : List.Forall₂ Allows slot digits) :
    List.Forall₂ (fun c d : Char => c.toNat ≤ d.toNat) digits (fillUnknown '9' slot) := by
  rw [fillUnknown, List.forall₂_map_right_iff]
  refine h.flip.imp fun d c ⟨hd, hc⟩ => ?_
  split
  · exact (Char.isDigit_iff_toNat.mp hd).2
  · next hunknown =>
    obtain rfl := (or_assoc.mpr hc).resolve_left hunknown
    exact le_rfl

theorem isLeast_readings {slot : List Char} (h : IsSlot slot) :
    IsLeast (readings slot) (Nat.ofDigitChars 10 (fillUnknown '0' slot) 0) := by
  constructor
  · exact ⟨_, forall₂_fillUnknown h.allowed (by decide), rfl⟩
  · rintro _ ⟨digits, hdigits, rfl⟩
    exact ofDigitChars_le (fillUnknown_zero_le hdigits) le_rfl

theorem isGreatest_readings {slot : List Char} (h : IsSlot slot) :
    IsGreatest (readings slot) (Nat.ofDigitChars 10 (fillUnknown '9' slot) 0) := by
  constructor
  · exact ⟨_, forall₂_fillUnknown h.allowed (by decide), rfl⟩
  · rintro _ ⟨digits, hdigits, rfl⟩
    exact ofDigitChars_le (le_fillUnknown_nine hdigits) le_rfl

/-! ## Reading a slot -/

theorem isBlank_of_isDigit {c : Char} (h : c.isDigit) : isBlank c = false := by
  have hlow := (Char.isDigit_iff_toNat.mp h).1
  have hzero : '0'.toNat = 48 := rfl
  simp only [isBlank, decide_eq_false_iff_not]
  omega

theorem readYear_of_isDigit {l : List Char} (hne : l ≠ []) (h : ∀ c ∈ l, c.isDigit) :
    readYear l = (Nat.ofDigitChars 10 l 0 : Nat) := by
  have hnatural : naturalYear l = Nat.ofDigitChars 10 l 0 := by
    rw [naturalYear, if_pos]
    · rfl
    · rw [Bool.and_eq_true, List.all_eq_true]
      exact ⟨by simpa using hne, h⟩
  rw [readYear, trimBlanks_eq_self fun c hc => isBlank_of_isDigit (h c hc)]
  split
  · exact absurd (h '-' List.mem_cons_self) (by decide)
  · exact absurd (h '+' List.mem_cons_self) (by decide)
  · rw [hnatural]

theorem slot?_eq_some {slot : List Char} (h : IsSlot slot) :
    slot? slot = some (fillIn '|' 'u' slot) := by
  rw [slot?, if_neg]
  rw [Bool.or_eq_true, not_or]
  constructor
  · intro hmarker
    rcases h.allowed '#' (List.contains_iff_mem.mp hmarker) with hdigit | heq | heq
    · exact absurd hdigit (by decide)
    · exact absurd heq (by decide)
    · exact absurd heq (by decide)
  · intro hall
    obtain ⟨c, hc, hne⟩ := h.used
    exact hne (by simpa using List.all_eq_true.mp hall c hc)

theorem fillUnknown_ne_nil {slot : List Char} (h : IsSlot slot) (digit : Char) :
    fillUnknown digit slot ≠ [] := by
  intro hnil
  have hlength := congrArg List.length hnil
  rw [fillUnknown, List.length_map, h.length] at hlength
  cases hlength

theorem startYear_slot? {slot : List Char} (h : IsSlot slot) :
    ∃ low : Nat, IsLeast (readings slot) low ∧ startYear 'u' (slot? slot) = low := by
  refine ⟨_, isLeast_readings h, ?_⟩
  rw [slot?_eq_some h, startYear, Option.map_some, Option.getD_some, earliestYear, fillIn_fillIn]
  exact readYear_of_isDigit (fillUnknown_ne_nil h '0')
    ((forall_isDigit_fillUnknown_iff (by decide)).mpr h.allowed)

theorem stopYear_slot? {slot : List Char} (h : IsSlot slot) :
    ∃ high : Nat, IsGreatest (readings slot) high ∧ stopYear 'u' (slot? slot) = high := by
  refine ⟨_, isGreatest_readings h, ?_⟩
  rw [slot?_eq_some h, stopYear, Option.map_some, Option.getD_some, latestYear, fillIn_fillIn]
  exact readYear_of_isDigit (fillUnknown_ne_nil h '9')
    ((forall_isDigit_fillUnknown_iff (by decide)).mpr h.allowed)

/-! ## Rounding -/

/-- The date of a type with one coded year. -/
structure RoundsOne (slot : List Char) (date : Option String) : Prop where
  unresolved : IsLeast (readings slot) 0 → date = none
  only : ∀ year : Nat, year ≠ 0 → readings slot = {year} → date = some (single year)
  several : ∀ low high : Nat, IsLeast (readings slot) low → IsGreatest (readings slot) high →
    low ≠ 0 → readings slot ≠ {low} → date = some (span low high)

/-- The date of a type with two coded years, where the first means at least `low` and the second at
most `high`. -/
structure RoundsTwo (type : Char) (low high : Nat) (date : Option String) : Prop where
  unresolved : low = 0 → date = none
  ascending : low ≠ 0 → low < high →
    date = if type = 'q' ∧ low + 200 < high then none else some (span low high)
  openEnd : low ≠ 0 → high = 0 → date = some (if type = 'c' then span low 9999 else single low)
  descending : high ≠ 0 → high ≤ low → type ≠ 'q' → date = some (single low)
  questionable : high ≠ 0 → high ≤ low → type = 'q' →
    date = if high = low then some (single low) else none
  start : ∀ y : Years, date = some y.text → y.start = low
  stop : ∀ y : Years, date = some y.text →
    ∀ stop ∈ y.stop, stop = high ∨ (type = 'c' ∧ high = 0 ∧ stop = 9999)

theorem roundsOne_resolve? {slot : List Char} {low high : Nat} (hlow : IsLeast (readings slot) low)
    (hhigh : IsGreatest (readings slot) high) {type : Char}
    (htype : type ∈ ['p', 'r', 's', 'e', 't']) :
    RoundsOne slot (resolve? low high (some type)) := by
  have hother : ['p', 'r', 's', 'e', 't'].Forall fun type =>
      ¬ type.isUpper ∧ type ≠ 'q' ∧ type ≠ 'c' := by decide
  obtain ⟨hupper, hq, hc⟩ := List.forall_iff_forall_mem.mp hother type htype
  have hlower : type.toLower = type := Char.toLower_eq_of_not_isUpper hupper
  have hresolve : resolve? low high (some type) =
      if low = 0 then none else if low < high then some (span low high) else some (single low) := by
    simp [resolve?, hlower, hq, hc]
  constructor
  · intro hzero
    rw [hresolve, if_pos (hlow.unique hzero)]
  · intro year hyear honly
    have hlow' : low = year := by simpa [honly] using hlow.1
    have hhigh' : high = year := by simpa [honly] using hhigh.1
    rw [hresolve, hlow', hhigh', if_neg hyear, if_neg (Nat.lt_irrefl year)]
  · intro low' high' hlow' hhigh' hne hseveral
    obtain rfl := hlow.unique hlow'
    obtain rfl := hhigh.unique hhigh'
    have hlt : low < high := by
      refine Nat.lt_of_le_of_ne (hlow.2 hhigh.1) fun heq => hseveral ?_
      refine Set.eq_singleton_iff_unique_mem.mpr ⟨hlow.1, fun year hyear => ?_⟩
      exact Nat.le_antisymm (heq ▸ hhigh.2 hyear) (hlow.2 hyear)
    rw [hresolve, if_neg hne, if_pos hlt]

theorem roundsTwo_resolve? (low high : Nat) {type : Char} (htype : ¬ type.isUpper) :
    RoundsTwo type low high (resolve? low high (some type)) := by
  have hlower : type.toLower = type := Char.toLower_eq_of_not_isUpper htype
  have hresolve : resolve? low high (some type) =
      if low = 0 then none
      else if type = 'q' then
        if high = 0 ∨ high = low then some (single low)
        else if low < high ∧ high ≤ low + 200 then some (span low high) else none
      else if low < high then some (span low high)
      else if high = 0 ∧ type = 'c' then some (span low 9999)
      else some (single low) := by
    have hspan : (high : Int) - low ≤ questionableSpan ↔ high ≤ low + 200 := by
      unfold questionableSpan
      omega
    simp [resolve?, hlower, hspan, openEnd]
  have hyears : ∀ y : Years, resolve? low high (some type) = some y.text → y.start = low ∧
      ∀ stop ∈ y.stop, stop = high ∨ (type = 'c' ∧ high = 0 ∧ stop = 9999) := by
    intro y hy
    obtain ⟨y', htext, hstart, -, hstop⟩ := exists_years_of_resolve? hy
    obtain rfl := Years.text_injective htext
    refine ⟨hstart, fun stop hmem => (hstop stop hmem).imp_right ?_⟩
    rintro ⟨hc | hC, hzero, hopen⟩
    · exact ⟨Option.some.inj hc, by exact_mod_cast hzero, hopen⟩
    · obtain rfl := Option.some.inj hC
      exact absurd (by decide) htype
  constructor
  case start => exact fun y hy => (hyears y hy).1
  case stop => exact fun y hy => (hyears y hy).2
  all_goals rw [hresolve]
  case unresolved => exact fun hzero => if_pos hzero
  case ascending =>
    intro hlow hlt
    rw [if_neg hlow]
    by_cases hq : type = 'q'
    · rw [if_pos hq, if_neg (by omega)]
      by_cases hwide : low + 200 < high
      · rw [if_neg (by omega), if_pos ⟨hq, hwide⟩]
      · rw [if_pos ⟨hlt, by omega⟩, if_neg fun h => hwide h.2]
    · rw [if_neg hq, if_pos hlt, if_neg fun h => hq h.1]
  case openEnd =>
    intro hlow hhigh
    rw [if_neg hlow]
    by_cases hq : type = 'q'
    · subst hq
      rw [if_pos rfl, if_pos (Or.inl hhigh), if_neg (by decide)]
    · rw [if_neg hq, if_neg (by omega)]
      by_cases hc : type = 'c'
      · rw [if_pos ⟨hhigh, hc⟩, if_pos hc]
      · rw [if_neg fun h => hc h.2, if_neg hc]
  case descending =>
    intro hhigh hle hq
    rw [if_neg (by omega), if_neg hq, if_neg (by omega), if_neg fun h => hhigh h.1]
  case questionable =>
    intro hhigh hle hq
    rw [if_neg (by omega), if_pos hq]
    by_cases heq : high = low
    · rw [if_pos (Or.inr heq), if_pos heq]
    · rw [if_neg (not_or.mpr ⟨hhigh, heq⟩), if_neg (by omega), if_neg heq]

/-! ## Coded dates -/

theorem isSpanType_iff {type : Char} :
    isSpanType type ↔ type ∈ ['q', 'c', 'd', 'u', 'm', 'k', 'i'] := List.contains_iff_mem

theorem isSingleType_iff {type : Char} :
    isSingleType type ↔ type ∈ ['p', 'r', 's', 'e', 't'] := List.contains_iff_mem

/-- **Coded dates round outward, and no further.** A type with one date gives the least and the
greatest year that it can mean, or the year if there is only one, whatever follows it. A type with two
dates begins with the least year of the first and ends with the greatest of the second, or in 9999
if the publication goes on. -/
theorem codedDate?_rounds {p : List Char} {type : Char} (htype : p[6]? = some type)
    {first : List Char} (hfirst : (p.drop 7).take 4 = first) (hslot : IsSlot first) :
    (type ∈ ['p', 'r', 's', 'e', 't'] →
      (∃ low high : Nat, IsLeast (readings first) low ∧ IsGreatest (readings first) high) ∧
      RoundsOne first (codedDate? p) ∧
      ∀ q : List Char, q[6]? = some type → (q.drop 7).take 4 = first →
        codedDate? q = codedDate? p) ∧
    (type ∈ ['q', 'c', 'd', 'u', 'm', 'k', 'i'] → 15 < p.length →
      ∀ second, (p.drop 11).take 4 = second → IsSlot second →
        ∃ low high : Nat, IsLeast (readings first) low ∧ IsGreatest (readings second) high ∧
          RoundsTwo type low high (codedDate? p)) := by
  have hlength : ∀ q : List Char, (q.drop 7).take 4 = first → ¬ q.length < 11 := by
    intro q hq
    have hlength := congrArg List.length hq
    rw [List.length_take, List.length_drop, hslot.length] at hlength
    omega
  obtain ⟨low, hlow, hstart⟩ := startYear_slot? hslot
  constructor
  · intro hone
    obtain ⟨high, hhigh, hstop⟩ := stopYear_slot? hslot
    have hspan : ¬ isSpanType type := by
      have hother : ['p', 'r', 's', 'e', 't'].Forall fun type => ¬ isSpanType type := by decide
      exact List.forall_iff_forall_mem.mp hother type hone
    have hcoded : ∀ q : List Char, q[6]? = some type → (q.drop 7).take 4 = first →
        codedDate? q = resolve? low high (some type) := by
      intro q hq hqfirst
      rw [codedDate?, hq, Option.bind_some, coded?_eq, codedYears?, if_neg (hlength q hqfirst),
        if_neg hspan, if_pos (isSingleType_iff.mpr hone), firstSlot?, hqfirst, hstart, hstop]
      rfl
    refine ⟨⟨low, high, hlow, hhigh⟩, ?_, fun q hq hqfirst => ?_⟩
    · rw [hcoded p htype hfirst]
      exact roundsOne_resolve? hlow hhigh hone
    · rw [hcoded q hq hqfirst, hcoded p htype hfirst]
  · intro htwo hlong second hsecond hslot'
    obtain ⟨high, hhigh, hstop⟩ := stopYear_slot? hslot'
    have hupper : ¬ type.isUpper := by
      have hlower : ['q', 'c', 'd', 'u', 'm', 'k', 'i'].Forall fun type => ¬ type.isUpper := by
        decide
      exact List.forall_iff_forall_mem.mp hlower type htwo
    refine ⟨low, high, hlow, hhigh, ?_⟩
    rw [codedDate?, htype, Option.bind_some, coded?_eq, codedYears?, if_neg (hlength p hfirst),
      if_pos (isSpanType_iff.mpr htwo), firstSlot?, hfirst, hstart, secondSlot?, if_pos hlong,
      hsecond, hstop]
    exact roundsTwo_resolve? low high hupper

/-- A decade and a year of it that are not known, and a publication that goes on. -/
theorem codedDate?_rounds_unknownDecade :
    IsSlot ['1', '9', '|', 'u'] ∧ IsSlot ['0', '0', '0', '0'] ∧
    codedDate? "871002s19|u2uuu".toList = some "1900/1999" ∧
    codedDate? "871002c19|u0000xx".toList = some "1900/9999" := by
  have hslot : IsSlot ['1', '9', '|', 'u'] :=
    ⟨rfl, List.forall_iff_forall_mem.mp (by decide), '1', by decide, by decide⟩
  have hslot' : IsSlot ['0', '0', '0', '0'] :=
    ⟨rfl, List.forall_iff_forall_mem.mp (by decide), '0', by decide, by decide⟩
  have hleast : IsLeast (readings ['1', '9', '|', 'u']) 1900 := isLeast_readings hslot
  have hgreatest : IsGreatest (readings ['1', '9', '|', 'u']) 1999 := isGreatest_readings hslot
  have hzero : IsGreatest (readings ['0', '0', '0', '0']) 0 := isGreatest_readings hslot'
  refine ⟨hslot, hslot', ?_, ?_⟩
  · obtain ⟨-, hone, -⟩ := (codedDate?_rounds (p := "871002s19|u2uuu".toList) rfl rfl hslot).1
      (by decide)
    refine hone.several 1900 1999 hleast hgreatest (by decide) fun honly => ?_
    exact absurd (honly ▸ hgreatest.1 : 1999 ∈ ({1900} : Set Nat)) (by decide)
  · obtain ⟨low, high, hlow, hhigh, htwo⟩ :=
      (codedDate?_rounds (p := "871002c19|u0000xx".toList) rfl rfl hslot).2 (by decide) (by decide)
        _ rfl hslot'
    obtain rfl := hleast.unique hlow
    obtain rfl := hzero.unique hhigh
    exact htwo.openEnd (by decide) rfl

end MarcHarvest.PublicationDate
