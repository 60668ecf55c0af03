import MarcHarvest.Proofs.Derivation.Years

/-!
# The case of the type of date

A comparison of years and the choice of an end year in a text fold the case of the type of date
(`firstDate?_congr`), but coded dates are read for types in lower case alone
(`codedDate?_of_not_isLower`). So a type in upper case leaves the date to the publication statements.
Which records notice follows from that: those whose coded dates give, with the type in lower case, a
date that the statements do not give as well (`date?_swapType_iff`).
-/

namespace MarcHarvest.PublicationDate

open Index

/-- The other case of an ASCII letter; any other character as it is. -/
def swapCase (c : Char) : Char := if c.isUpper then c.toLower else c.toUpper

/-- The record with its type of date in the other case. -/
def swapType (r : RecordView) : RecordView :=
  { r with control := r.control.map fun c =>
      if c.1 = codedTag then (c.1, String.ofList (c.2.toList.modify 6 swapCase)) else c }

/-! ## Changing the type -/

theorem codedPayload_swapType (r : RecordView) :
    codedPayload (swapType r) = (codedPayload r).modify 6 swapCase := by
  let f : String × String → String × String := fun c =>
    if c.1 = codedTag then (c.1, String.ofList (c.2.toList.modify 6 swapCase)) else c
  have htag : ∀ c, (f c).1 = c.1 := by
    intro c
    dsimp only [f]
    split <;> rfl
  change (((r.control.map f).reverse.find? fun c => c.1 = codedTag).map _).getD [] = _
  rw [← List.map_reverse, List.find?_map, codedPayload]
  simp only [Function.comp_def, htag]
  cases hfind : r.control.reverse.find? fun c => c.1 = codedTag with
  | none => rfl
  | some c =>
    have hc : c.1 = codedTag := by simpa using List.find?_some hfind
    have hf : f c = (c.1, String.ofList (c.2.toList.modify 6 swapCase)) := if_pos hc
    simp only [Option.map_some, Option.getD_some, hf, String.toList_ofList]

theorem modify_congr {f g : Char → Char} {p : List Char} {k : Nat} {c : Char}
    (hc : p[k]? = some c) (h : f c = g c) : p.modify k f = p.modify k g := by
  refine List.ext_getElem? fun j => ?_
  rw [List.getElem?_modify, List.getElem?_modify]
  by_cases hj : k = j
  · subst hj
    simp [hc, h]
  · simp [hj]

theorem modify_eq_self {f : Char → Char} {p : List Char} {k : Nat} {c : Char}
    (hc : p[k]? = some c) (h : f c = c) : p.modify k f = p := by
  rw [modify_congr (g := id) hc h, List.modify_id]

theorem toLower_swapCase (c : Char) : (swapCase c).toLower = c.toLower := by
  rw [swapCase]
  split
  · exact Char.toLower_toLower_eq_toLower c
  · exact Char.toLower_toUpper_eq_toLower c

/-! ## What folds the case -/

theorem resolve?_congr {type type' : Option Char}
    (h : type.map Char.toLower = type'.map Char.toLower) (start stop : Int) :
    resolve? start stop type = resolve? start stop type' := by
  unfold resolve?
  rw [h]

theorem ofText?_congr {type type' : Option Char}
    (h : type.map Char.toLower = type'.map Char.toLower) (text : String) :
    ofText? text type = ofText? text type' := by
  unfold ofText?
  rw [h]
  split
  · rfl
  · exact resolve?_congr h _ _

theorem firstDate?_congr {type type' : Option Char}
    (h : type.map Char.toLower = type'.map Char.toLower) (texts : List String) :
    firstDate? type texts = firstDate? type' texts :=
  findSome?_congr fun text _ => ofText?_congr h text

theorem firstDate?_swapType (r : RecordView) (texts : List String) :
    firstDate? (codedPayload (swapType r))[6]? texts = firstDate? (codedPayload r)[6]? texts := by
  refine firstDate?_congr ?_ texts
  rw [codedPayload_swapType, List.getElem?_modify_eq, Option.map_eq_map, Option.map_map]
  exact congrArg (Option.map · _) (funext toLower_swapCase)

/-! ## What does not -/

theorem codedDate?_of_not_isLower {p : List Char} {c : Char} (hc : p[6]? = some c)
    (hlower : ¬ c.isLower) : codedDate? p = none := by
  have htypes : (['q', 'c', 'd', 'u', 'm', 'k', 'i'] ++ ['p', 'r', 's', 'e', 't']).Forall
      fun type => type.isLower := by decide
  have hother : c ∉ ['q', 'c', 'd', 'u', 'm', 'k', 'i'] ++ ['p', 'r', 's', 'e', 't'] := fun hmem =>
    hlower (List.forall_iff_forall_mem.mp htypes c hmem)
  rw [List.mem_append, not_or] at hother
  have hspan : isSpanType c = false := by
    simpa [isSpanType] using hother.1
  have hsingle : isSingleType c = false := by
    simpa [isSingleType] using hother.2
  rw [codedDate?, hc, Option.bind_some, coded?]
  simp [hspan, hsingle]

theorem or_eq_right_iff {α : Type} {a b : Option α} : a.or b = b ↔ a = none ∨ a = b := by
  cases a with
  | none => simp
  | some a => simp

theorem toList_inj {α : Type} {a b : Option α} : a.toList = b.toList ↔ a = b := by
  cases a <;> cases b <;> simp

/-- The type in one case and in the other give the same date only if the coded dates do not count,
or give what the statements give. -/
theorem date?_swapType_iff (r : RecordView) :
    date? (swapType r) = date? r ↔
      codedDate? ((codedPayload r).modify 6 Char.toLower) = none ∨
      codedDate? ((codedPayload r).modify 6 Char.toLower) =
        firstDate? (codedPayload r)[6]? (statementTexts r) := by
  have htexts : statementTexts (swapType r) = statementTexts r := rfl
  rw [date?_eq_or, date?_eq_or, htexts, firstDate?_swapType, codedPayload_swapType]
  generalize firstDate? (codedPayload r)[6]? (statementTexts r) = described
  generalize codedPayload r = p
  cases hc : p[6]? with
  | none =>
    have hnone : codedDate? p = none := by rw [codedDate?, hc, Option.bind_none]
    have hself : ∀ f, p.modify 6 f = p := fun f => List.modify_eq_self (by simpa using hc)
    rw [hself, hself, hnone]
    simp
  | some c =>
    by_cases hlower : c.isLower
    · have hupper : ¬ c.isUpper := fun h => not_isLower_of_isUpper h hlower
      have hself : p.modify 6 Char.toLower = p :=
        modify_eq_self hc (Char.toLower_eq_of_not_isUpper hupper)
      have hswap : (p.modify 6 swapCase)[6]? = some c.toUpper := by
        rw [List.getElem?_modify_eq, hc, Option.map_eq_map, Option.map_some, swapCase,
          if_neg hupper]
      have hnone : codedDate? (p.modify 6 swapCase) = none :=
        codedDate?_of_not_isLower hswap (by simp [Char.isLower_toUpper_eq_false])
      rw [hnone, hself, Option.none_or, eq_comm, or_eq_right_iff]
    · have hnone : codedDate? p = none := codedDate?_of_not_isLower hc hlower
      rw [hnone, Option.none_or]
      by_cases hupper : c.isUpper
      · have hswap : p.modify 6 swapCase = p.modify 6 Char.toLower :=
          modify_congr hc (if_pos hupper)
        rw [hswap, or_eq_right_iff]
      · have hswap : p.modify 6 swapCase = p := by
          refine modify_eq_self hc ?_
          rw [swapCase, if_neg hupper, Char.toUpper_eq_of_not_isLower hlower]
        have hself : p.modify 6 Char.toLower = p :=
          modify_eq_self hc (Char.toLower_eq_of_not_isUpper hupper)
        rw [hswap, hself, hnone, Option.none_or]
        simp

/-! ## Two runs -/

variable {i : Interest}

/-- **What the case of the type changes.** On every index that holds what it reads, the derivation
gives the same values with the type in the other case exactly if the coded dates give, with the type
in lower case, no date or the one that the publication statements give. The statements give the same
date for both cases, and with a type in upper case no date is coded. -/
theorem apply_publicationDate_swapType (hi : Derivation.publicationDate.Supplied i)
    (r : RecordView) (languages : LanguageTable) (values : List String) :
    (Derivation.publicationDate.apply (build (swapType r) i) languages values =
        Derivation.publicationDate.apply (build r i) languages values ↔
      codedDate? ((codedPayload r).modify 6 Char.toLower) = none ∨
      codedDate? ((codedPayload r).modify 6 Char.toLower) =
        firstDate? (codedPayload r)[6]? (statementTexts r)) ∧
    (∀ texts, firstDate? (codedPayload (swapType r))[6]? texts =
      firstDate? (codedPayload r)[6]? texts) ∧
    ∀ c, (codedPayload r)[6]? = some c → c.isUpper → codedDate? (codedPayload r) = none := by
  refine ⟨?_, firstDate?_swapType r, ?_⟩
  · rw [← date?_swapType_iff, apply_publicationDate_eq_append hi,
      apply_publicationDate_eq_append hi, List.append_cancel_left_eq, toList_inj]
  · intro c hc hupper
    exact codedDate?_of_not_isLower hc (not_isLower_of_isUpper hupper)

def statedTwice : RecordView where
  control := [("008", "871002S1986    ")]
  fields := [⟨"264", ' ', '1', [⟨'c', "[1986]"⟩]⟩]

theorem apply_publicationDate_swapType_statedTwice :
    Derivation.publicationDate.Supplied (Derivation.publicationDate.addInterest .least) ∧
    Derivation.publicationDate.apply
      (build (swapType statedTwice) (Derivation.publicationDate.addInterest .least)) .standard [] =
      Derivation.publicationDate.apply
        (build statedTwice (Derivation.publicationDate.addInterest .least)) .standard [] ∧
    (codedPayload statedTwice)[6]? = some 'S' ∧ codedDate? (codedPayload statedTwice) = none := by
  have hi := supplied_publicationDate
  obtain ⟨hiff, -, hupper⟩ := apply_publicationDate_swapType hi statedTwice .standard []
  have htype : (codedPayload statedTwice)[6]? = some 'S' := by decide
  exact ⟨hi, hiff.mpr (Or.inr (by decide)), htype, hupper 'S' htype (by decide)⟩

def upperType : RecordView where
  control := [("008", "871002S1986    xx  a         f00000 jpn  ")]
  fields := []

theorem swapType_changes_date :
    Derivation.publicationDate.apply
      (build upperType (Derivation.publicationDate.addInterest .least)) .standard [] = [] ∧
    Derivation.publicationDate.apply
      (build (swapType upperType) (Derivation.publicationDate.addInterest .least)) .standard [] =
        ["1986"] := by
  constructor
  · rw [apply_publicationDate_eq_append supplied_publicationDate]
    decide
  · rw [apply_publicationDate_eq_append supplied_publicationDate]
    decide

end MarcHarvest.PublicationDate
