import Mathlib
import MarcHarvest.Proofs.Derivation.DatePrecedence
import MarcHarvest.Proofs.Safety.Derivation

/-!
# The years of a date

A date of publication writes a start year and, if it is a span, an end year (`Years`); its text
determines them (`Years.text_injective`). Whatever a record holds, its date comes out of the
comparison of two years: those that the 008 codes, or those that a publication statement writes.
`compared` lists these pairs in the order in which they are tried, and the first comparison that
gives a date wins (`date?_eq_findSome?`).

So the shape of dates is decided in one place (`exists_years_of_resolve?`), and their range by the
texts from which years are read, none of which has more than four characters
(`fitsSlot_of_mem_compared`).
-/

namespace MarcHarvest.PublicationDate

open Index

/-! ## Years and their texts -/

structure Years where
  start : Int
  stop : Option Int

def Years.text (y : Years) : String :=
  match y.stop with
  | none => single y.start
  | some stop => span y.start stop

theorem slash_not_mem_single (n : Int) : '/' ∉ (single n).toList := by
  have hnat : ∀ m : Nat, '/' ∉ m.repr.toList := by
    intro m h
    rw [Nat.toList_repr] at h
    exact absurd (Nat.isDigit_of_mem_toDigits (by decide) (by decide) h) (by decide)
  intro h
  rw [single, Int.toString_eq_repr, Int.repr_eq_if] at h
  split at h
  · exact hnat _ h
  · rw [String.toList_append, List.mem_append] at h
    rcases h with h | h
    · exact absurd h (by decide)
    · exact hnat _ h

theorem single_inj {m n : Int} : single m = single n ↔ m = n := by
  rw [single, single, Int.toString_eq_repr, Int.toString_eq_repr, Int.repr_inj]

theorem toList_span (start stop : Int) :
    (span start stop).toList = (single start).toList ++ '/' :: (single stop).toList := by
  rw [span, String.toList_append, String.toList_append, List.append_assoc]
  rfl

theorem Years.text_injective : Function.Injective Years.text := by
  have hne : ∀ n start stop : Int, single n ≠ span start stop := by
    intro n start stop h
    apply slash_not_mem_single n
    rw [h, toList_span]
    exact List.mem_append_right _ List.mem_cons_self
  rintro ⟨start, stop⟩ ⟨start', stop'⟩ h
  cases stop with
  | none =>
    cases stop' with
    | none =>
      obtain rfl := single_inj.mp h
      rfl
    | some stop' => exact absurd h (hne _ _ _)
  | some stop =>
    cases stop' with
    | none => exact absurd h.symm (hne _ _ _)
    | some stop' =>
      have hlist : (span start stop).toList = (span start' stop').toList := congrArg _ h
      rw [toList_span, toList_span, List.append_cons_inj_of_notMem (slash_not_mem_single _)
        (slash_not_mem_single _), String.toList_inj, String.toList_inj, single_inj,
        single_inj] at hlist
      obtain ⟨rfl, -, rfl⟩ := hlist
      rfl

/-! ## What a comparison gives -/

/-- The years that a type of date allows in a date. -/
structure IsDate (type : Option Char) (y : Years) : Prop where
  start : y.start ≠ 0
  stop : ∀ stop ∈ y.stop,
    y.start < stop ∨ ((type = some 'c' ∨ type = some 'C') ∧ stop = 9999)
  questionable : type = some 'q' ∨ type = some 'Q' → ∀ stop ∈ y.stop, stop - y.start ≤ 200

theorem not_isLower_of_isUpper {c : Char} (h : c.isUpper) : ¬ c.isLower := by
  simp only [Char.isUpper, Char.isLower, Bool.decide_and, Bool.and_eq_true,
    decide_eq_true_iff, ge_iff_le, UInt32.le_iff_toNat_le] at h ⊢
  have hZ : 'Z'.val.toNat = 90 := rfl
  have ha : 'a'.val.toNat = 97 := rfl
  omega

theorem eq_of_toLower_eq {c d : Char} (h : c.toLower = d) : c = d ∨ c = d.toUpper := by
  by_cases hc : c.isUpper
  · right
    rw [← h, Char.toUpper_toLower_eq_toUpper,
      Char.toUpper_eq_of_not_isLower (not_isLower_of_isUpper hc)]
  · left
    rw [← h, Char.toLower_eq_of_not_isUpper hc]

theorem map_toLower_eq_some {type : Option Char} {c : Char}
    (h : type.map Char.toLower = some c) : type = some c ∨ type = some c.toUpper := by
  obtain ⟨d, rfl, hd⟩ := Option.map_eq_some_iff.mp h
  rw [Option.some_inj, Option.some_inj]
  exact eq_of_toLower_eq hd

/-- A comparison gives a date with the start year in front; its end is the end year, or is open. -/
theorem resolve?_cases {start stop : Int} {type : Option Char} {date : String}
    (h : resolve? start stop type = some date) :
    start ≠ 0 ∧ (date = single start ∨
      (date = span start stop ∧ start < stop ∧
        (type.map Char.toLower = some 'q' → stop - start ≤ questionableSpan)) ∨
      (date = span start openEnd ∧ stop = 0 ∧ type.map Char.toLower = some 'c')) := by
  unfold resolve? at h
  dsimp only at h
  by_cases hstart : start = 0
  · rw [if_pos hstart] at h
    cases h
  refine ⟨hstart, ?_⟩
  rw [if_neg hstart] at h
  by_cases hq : type.map Char.toLower = some 'q'
  · rw [if_pos hq] at h
    split_ifs at h with hone hspan
    · exact Or.inl (Option.some.inj h).symm
    · exact Or.inr (Or.inl ⟨(Option.some.inj h).symm, hspan.1, fun _ => hspan.2⟩)
  · rw [if_neg hq] at h
    split_ifs at h with hspan hopen
    · exact Or.inr (Or.inl ⟨(Option.some.inj h).symm, hspan, fun h => absurd h hq⟩)
    · exact Or.inr (Or.inr ⟨(Option.some.inj h).symm, hopen⟩)
    · exact Or.inl (Option.some.inj h).symm

theorem exists_years_of_resolve? {start stop : Int} {type : Option Char} {date : String}
    (h : resolve? start stop type = some date) :
    ∃ y : Years, date = y.text ∧ y.start = start ∧ IsDate type y ∧
      ∀ e ∈ y.stop, e = stop ∨ ((type = some 'c' ∨ type = some 'C') ∧ stop = 0 ∧ e = 9999) := by
  obtain ⟨hstart, rfl | ⟨rfl, hlt, hq⟩ | ⟨rfl, hzero, hc⟩⟩ := resolve?_cases h
  · exact ⟨⟨start, none⟩, rfl, rfl, ⟨hstart, nofun, nofun⟩, nofun⟩
  · refine ⟨⟨start, some stop⟩, rfl, rfl, ⟨hstart, ?_, ?_⟩, ?_⟩
    · rintro e ⟨⟩
      exact Or.inl hlt
    · rintro htype e ⟨⟩
      apply hq
      rcases htype with rfl | rfl <;> rfl
    · rintro e ⟨⟩
      exact Or.inl rfl
  · have hc' := map_toLower_eq_some hc
    refine ⟨⟨start, some openEnd⟩, rfl, rfl, ⟨hstart, ?_, ?_⟩, ?_⟩
    · rintro e ⟨⟩
      exact Or.inr ⟨hc', rfl⟩
    · rintro (rfl | rfl) <;> exact absurd hc (by decide)
    · rintro e ⟨⟩
      exact Or.inr ⟨hc', hzero, rfl⟩

/-! ## The years that are compared -/

/-- The earliest year of a text with unknown digits; 0 if there is no text. -/
def startYear (unknown : Char) (l? : Option (List Char)) : Int :=
  (l?.map (earliestYear unknown)).getD 0

/-- The latest year of a text with unknown digits; 0 if there is no text. -/
def stopYear (unknown : Char) (l? : Option (List Char)) : Int :=
  (l?.map (latestYear unknown)).getD 0

/-- The start and the end that a payload codes; no years, written 0, for a type without dates. -/
def codedYears? (payload : List Char) (type : Char) : Option (Int × Int) :=
  if payload.length < 11 then none
  else if isSpanType type then
    some (startYear 'u' (firstSlot? payload), stopYear 'u' (secondSlot? payload))
  else if isSingleType type then
    some (startYear 'u' (firstSlot? payload), stopYear 'u' (firstSlot? payload))
  else some (0, 0)

/-- The start and the end that a text writes, if there is a year in it. -/
def textYears? (text : String) (type : Option Char) : Option (Int × Int) :=
  match yearRuns false (markUnknown false text.toList) with
  | [] => none
  | first :: more =>
    some (earliestYear 'x' first, stopYear 'x'
      (if (type.map Char.toLower).any isSingleType then some first else more.getLast?))

/-- The pairs of years that a record brings, in the order in which they are compared. -/
def compared (r : RecordView) : List (Int × Int) :=
  ((codedPayload r)[6]?.bind (codedYears? (codedPayload r))).toList ++
    (statementTexts r).filterMap fun text => textYears? text (codedPayload r)[6]?

theorem coded?_eq (payload : List Char) (type : Char) :
    coded? payload type =
      (codedYears? payload type).bind fun c => resolve? c.1 c.2 (some type) := by
  unfold coded? codedYears?
  dsimp only
  by_cases hlength : payload.length < 11
  · rw [if_pos hlength, if_pos hlength, Option.bind_none]
  rw [if_neg hlength, if_neg hlength]
  by_cases hspan : isSpanType type
  · rw [if_pos hspan, if_pos hspan, if_pos (by rw [hspan, Bool.true_or]), Option.bind_some]
    rfl
  rw [if_neg hspan, if_neg hspan]
  by_cases hsingle : isSingleType type
  · rw [if_pos hsingle, if_pos (by rw [hsingle, Bool.or_true]), Option.bind_some]
    rfl
  · rw [if_neg hsingle, if_neg (by simp [hspan, hsingle]), Option.bind_some]
    rfl

theorem ofText?_eq (text : String) (type : Option Char) :
    ofText? text type = (textYears? text type).bind fun c => resolve? c.1 c.2 type := by
  unfold ofText? textYears?
  cases yearRuns false (markUnknown false text.toList) <;> rfl

theorem findSome?_toList {α β : Type} (o : Option α) (f : α → Option β) :
    o.toList.findSome? f = o.bind f := by
  cases o with
  | none => rfl
  | some a => simp

theorem findSome?_filterMap {α β γ : Type} (f : α → Option β) (g : β → Option γ) (l : List α) :
    (l.filterMap f).findSome? g = l.findSome? fun a => (f a).bind g := by
  rw [List.filterMap_eq_flatMap_toList, findSome?_flatMap]
  exact findSome?_congr fun a _ => findSome?_toList (f a) g

theorem date?_eq_or (r : RecordView) :
    date? r = (codedDate? (codedPayload r)).or
      (firstDate? (codedPayload r)[6]? (statementTexts r)) := by
  rw [date?]
  cases codedDate? (codedPayload r) <;> rfl

theorem date?_eq_findSome? (r : RecordView) :
    date? r = (compared r).findSome? fun c => resolve? c.1 c.2 (codedPayload r)[6]? := by
  have hcoded : codedDate? (codedPayload r) =
      ((codedPayload r)[6]?.bind (codedYears? (codedPayload r))).bind
        fun c => resolve? c.1 c.2 (codedPayload r)[6]? := by
    rw [codedDate?]
    cases (codedPayload r)[6]? with
    | none => rfl
    | some type => exact coded?_eq _ type
  have hdescribed : firstDate? (codedPayload r)[6]? (statementTexts r) =
      ((statementTexts r).filterMap fun text => textYears? text (codedPayload r)[6]?).findSome?
        fun c => resolve? c.1 c.2 (codedPayload r)[6]? := by
    rw [firstDate?, findSome?_filterMap]
    exact findSome?_congr fun text _ => ofText?_eq text _
  rw [date?_eq_or, compared, List.findSome?_append, findSome?_toList, hcoded, hdescribed]

/-! ## Their range -/

/-- What four characters can write: four digits, or a sign and three. -/
def FitsSlot (n : Int) : Prop := -999 ≤ n ∧ n ≤ 9999

theorem fitsSlot_filled {l? : Option (List Char)} (h : ∀ l ∈ l?, l.length ≤ 4)
    (unknown digit : Char) :
    FitsSlot ((l?.map fun l => readYear (fillIn unknown digit l)).getD 0) := by
  cases l? with
  | none =>
    have hzero : FitsSlot 0 := ⟨by decide, by decide⟩
    exact hzero
  | some l =>
    have hl : (fillIn unknown digit l).length ≤ 4 := by
      rw [fillIn, List.length_map]
      exact h l rfl
    exact Checked.readYear_bounds hl

theorem fitsSlot_codedYears? {payload : List Char} {type : Char} {c : Int × Int}
    (h : codedYears? payload type = some c) : FitsSlot c.1 ∧ FitsSlot c.2 := by
  have hfirst : ∀ l ∈ firstSlot? payload, l.length ≤ 4 := fun _ => Checked.length_firstSlot?_le
  have hsecond : ∀ l ∈ secondSlot? payload, l.length ≤ 4 := fun _ => Checked.length_secondSlot?_le
  unfold codedYears? at h
  split_ifs at h <;> cases h
  · exact ⟨fitsSlot_filled hfirst 'u' '0', fitsSlot_filled hsecond 'u' '9'⟩
  · exact ⟨fitsSlot_filled hfirst 'u' '0', fitsSlot_filled hfirst 'u' '9'⟩
  · exact ⟨⟨by decide, by decide⟩, ⟨by decide, by decide⟩⟩

theorem exists_runs_of_textYears? {text : String} {type : Option Char} {c : Int × Int}
    (h : textYears? text type = some c) :
    ∃ first last?, c = (startYear 'x' (some first), stopYear 'x' last?) ∧
      first ∈ yearRuns false (markUnknown false text.toList) ∧
      ∀ run ∈ last?, run ∈ yearRuns false (markUnknown false text.toList) := by
  unfold textYears? at h
  cases hruns : yearRuns false (markUnknown false text.toList) with
  | nil =>
    rw [hruns] at h
    cases h
  | cons first more =>
    rw [hruns] at h
    cases h
    refine ⟨first, _, rfl, List.mem_cons_self, fun run hrun => ?_⟩
    split at hrun
    · cases hrun
      exact List.mem_cons_self
    · exact List.mem_cons_of_mem first (List.mem_of_getLast? hrun)

theorem fitsSlot_textYears? {text : String} {type : Option Char} {c : Int × Int}
    (h : textYears? text type = some c) : FitsSlot c.1 ∧ FitsSlot c.2 := by
  obtain ⟨first, last?, rfl, hfirst, hlast⟩ := exists_runs_of_textYears? h
  have hstart : ∀ run ∈ some first, run.length ≤ 4 := by
    rintro run ⟨⟩
    exact Checked.length_of_mem_yearRuns hfirst
  have hstop : ∀ run ∈ last?, run.length ≤ 4 := fun run hrun =>
    Checked.length_of_mem_yearRuns (hlast run hrun)
  exact ⟨fitsSlot_filled hstart 'x' '0', fitsSlot_filled hstop 'x' '9'⟩

theorem mem_compared {r : RecordView} {c : Int × Int} (hc : c ∈ compared r) :
    (∃ type, codedYears? (codedPayload r) type = some c) ∨
      ∃ text ∈ statementTexts r, textYears? text (codedPayload r)[6]? = some c := by
  rw [compared, List.mem_append, Option.mem_toList, List.mem_filterMap] at hc
  rcases hc with hc | hc
  · obtain ⟨type, -, hyears⟩ := Option.bind_eq_some_iff.mp hc
    exact Or.inl ⟨type, hyears⟩
  · exact Or.inr hc

theorem fitsSlot_of_mem_compared {r : RecordView} {c : Int × Int} (hc : c ∈ compared r) :
    FitsSlot c.1 ∧ FitsSlot c.2 := by
  rcases mem_compared hc with ⟨type, h⟩ | ⟨text, -, h⟩
  · exact fitsSlot_codedYears? h
  · exact fitsSlot_textYears? h

/-! ## The shape of dates -/

theorem supplied_publicationDate :
    Derivation.publicationDate.Supplied (Derivation.publicationDate.addInterest .least) :=
  Derivation.supplied_addInterest _ _

theorem exists_years_of_date? {r : RecordView} {date : String} (h : date? r = some date) :
    ∃ c ∈ compared r, ∃ y : Years, date = y.text ∧ y.start = c.1 ∧
      IsDate (codedPayload r)[6]? y ∧ ∀ e ∈ y.stop, e = c.2 ∨ e = 9999 := by
  rw [date?_eq_findSome?] at h
  obtain ⟨c, hc, hdate⟩ := List.exists_of_findSome?_eq_some h
  obtain ⟨y, htext, hstart, hy, hstop⟩ := exists_years_of_resolve? hdate
  exact ⟨c, hc, y, htext, hstart, hy, fun e he => (hstop e he).imp_right fun h => h.2.2⟩

variable {i : Interest}

theorem apply_publicationDate_eq_append (hi : Derivation.publicationDate.Supplied i)
    (r : RecordView) (languages : LanguageTable) (values : List String) :
    Derivation.publicationDate.apply (build r i) languages values =
      values ++ (date? r).toList := by
  rw [Derivation.apply, publicationDate?_build hi]

/-- **The shape of a date.** On every index that holds what it reads, the derivation keeps the values
that it is given and appends at most one date: a year other than 0, or a span that ascends or is open
at its end, and is not too long if the date is questionable. Every year that is compared on the way
fits in four characters, so no step of the run leaves the machine integers. -/
theorem apply_publicationDate_shape (hi : Derivation.publicationDate.Supplied i) (r : RecordView)
    (languages : LanguageTable) (values : List String) :
    Derivation.publicationDate.apply (build r i) languages values =
      values ++ (date? r).toList ∧
    (∀ date ∈ date? r, ∃ y : Years, date = y.text ∧ IsDate (codedPayload r)[6]? y) ∧
    (date? r = (compared r).findSome? fun c => resolve? c.1 c.2 (codedPayload r)[6]?) ∧
    (∀ c ∈ compared r, FitsSlot c.1 ∧ FitsSlot c.2 ∧ Checked.IsInt32 (c.2 - c.1)) ∧
    Checked.publicationDate? (build r i) = .ok (date? r) := by
  refine ⟨apply_publicationDate_eq_append hi r languages values, ?_, date?_eq_findSome? r, ?_, ?_⟩
  · intro date hdate
    obtain ⟨-, -, y, htext, -, hy, -⟩ := exists_years_of_date? hdate
    exact ⟨y, htext, hy⟩
  · intro c hc
    obtain ⟨hstart, hstop⟩ := fitsSlot_of_mem_compared hc
    refine ⟨hstart, hstop, ?_⟩
    unfold FitsSlot at hstart hstop
    exact ⟨by omega, by omega⟩
  · rw [Checked.publicationDate?_eq_ok, publicationDate?_build hi]

/-- A publication that goes on, with the type of date in upper case. -/
def continued : RecordView where
  control := [("008", "871002C1950    xx")]
  fields := [⟨"264", ' ', '1', [⟨'c', "1950-"⟩]⟩]

theorem apply_publicationDate_shape_continued :
    Derivation.publicationDate.Supplied (Derivation.publicationDate.addInterest .least) ∧
    Derivation.publicationDate.apply
      (build continued (Derivation.publicationDate.addInterest .least)) .standard ["kept"] =
        ["kept", "1950/9999"] ∧
    IsDate (some 'C') ⟨1950, some 9999⟩ := by
  have hshape := apply_publicationDate_shape supplied_publicationDate continued .standard ["kept"]
  have hdate : date? continued = some "1950/9999" := by decide
  obtain ⟨y, htext, hy⟩ := hshape.2.1 _ hdate
  obtain rfl : ⟨1950, some 9999⟩ = y := Years.text_injective htext
  refine ⟨supplied_publicationDate, ?_, hy⟩
  rw [hshape.1, hdate]
  rfl

end MarcHarvest.PublicationDate
