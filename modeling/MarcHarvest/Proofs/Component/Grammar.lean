import MarcHarvest.Component.Parser
import MarcHarvest.Proofs.Except
import MarcHarvest.Proofs.Text.Decimal

/-!
# The grammar of components

A component is written as three characters of tag, then perhaps a bar and two indicators, then an
offset in brackets or else codes. `Writes` is this grammar as a relation between texts and
components, `Expands` the replacement of the token for all letters, which comes first. The parser
reads exactly the texts of the grammar, and each as the component that it writes (`parse_eq_ok_iff`).
-/

namespace MarcHarvest.Component

open Text

/-! ## The grammar -/

/-- The token that stands for all letters. -/
def lettersToken : List Char := ['_', 'A', 'T', 'O', 'Z', '_']

def letters : List Char := "abcdefghijklmnopqrstuvwxyz".toList

/-- Replacement of the token, from left to right: a character stays if no token begins there. -/
inductive Expands : List Char → List Char → Prop
  | nil : Expands [] []
  | token {l t : List Char} (h : Expands l t) : Expands (lettersToken ++ l) (letters ++ t)
  | char {c : Char} {l t : List Char} (hc : ¬ lettersToken <+: c :: l) (h : Expands l t) :
      Expands (c :: l) (c :: t)

/-- A number of 64 bits in decimal digits. -/
structure WritesNumber (l : List Char) (n : Nat) : Prop where
  ne_nil : l ≠ []
  isDigit : ∀ c ∈ l, c.isDigit
  value_eq : decimalValue l = n
  lt_size : n < UInt64.size

/-- What follows the bracket that opens an offset. After the closing bracket anything may stand. -/
inductive WritesOffset : List Char → Offset → Prop
  | position {l rest : List Char} {n : Nat} (h : WritesNumber l n) :
      WritesOffset (l ++ ']' :: rest) (.position n)
  | range {l l' rest : List Char} {n m : Nat} (h : WritesNumber l n) (h' : WritesNumber l' m) :
      WritesOffset (l ++ '-' :: (l' ++ ']' :: rest)) (.range n m)

/-- The last part of a component: an offset if a bracket opens it, otherwise codes. -/
inductive WritesSelector : List Char → Selection → Option Offset → Prop
  | offset {l : List Char} {o : Offset} (h : WritesOffset l o) :
      WritesSelector ('[' :: l) .all (some o)
  | all : WritesSelector [] .all none
  | each {c : Char} (hc : c ≠ '[') : WritesSelector [c] (.each c) none
  | joined {c d : Char} {l : List Char} (hc : c ≠ '[') :
      WritesSelector (c :: d :: l) (.joined (String.ofList (c :: d :: l))) none

/-- The character of an indicator and its condition. -/
inductive WritesCondition : Char → IndicatorCondition → Prop
  | any : WritesCondition '*' .any
  | exact {c : Char} (hc : c ≠ '*') : WritesCondition c (.exact c)

/-- What follows the tag: indicators if a bar opens them, and the rest. The bar that closes them can
be left out. -/
inductive WritesIndicators :
    List Char → IndicatorCondition → IndicatorCondition → List Char → Prop
  | absent {rest : List Char} (h : rest.head? ≠ some '|') : WritesIndicators rest .any .any rest
  | closed {i j : Char} {ind1 ind2 : IndicatorCondition} {rest : List Char}
      (hi : WritesCondition i ind1) (hj : WritesCondition j ind2) :
      WritesIndicators ('|' :: i :: j :: '|' :: rest) ind1 ind2 rest
  | unclosed {i j : Char} {ind1 ind2 : IndicatorCondition} {rest : List Char}
      (hi : WritesCondition i ind1) (hj : WritesCondition j ind2) (h : rest.head? ≠ some '|') :
      WritesIndicators ('|' :: i :: j :: rest) ind1 ind2 rest

/-- The text of a component, its letters expanded. -/
inductive Writes : List Char → Component → Prop
  | mk {a b c : Char} {l rest : List Char} {ind1 ind2 : IndicatorCondition}
      {selection : Selection} {offset : Option Offset}
      (hind : WritesIndicators l ind1 ind2 rest) (hsel : WritesSelector rest selection offset) :
      Writes (a :: b :: c :: l) ⟨String.ofList [a, b, c], ind1, ind2, selection, offset⟩

/-! ## Letters -/

theorem expandLetters_token (l : List Char) :
    expandLetters (lettersToken ++ l) = letters ++ expandLetters l := by
  rw [expandLetters.eq_def]
  rfl

theorem expandLetters_cons {c : Char} {l : List Char} (h : ¬ lettersToken <+: c :: l) :
    expandLetters (c :: l) = c :: expandLetters l := by
  rw [expandLetters.eq_def]
  split
  · next rest heq => exact absurd ⟨rest, heq.symm⟩ h
  · next c' rest _ heq =>
    obtain ⟨rfl, rfl⟩ := List.cons.inj heq
    rfl
  · next heq => cases heq

theorem expands_expandLetters (l : List Char) : Expands l (expandLetters l) := by
  induction l using expandLetters.induct with
  | case1 rest ih =>
    have htoken : '_' :: 'A' :: 'T' :: 'O' :: 'Z' :: '_' :: rest = lettersToken ++ rest := rfl
    rw [htoken, expandLetters_token]
    exact .token ih
  | case2 c rest hc ih =>
    have hprefix : ¬ lettersToken <+: c :: rest := by
      rintro ⟨l, hl⟩
      obtain ⟨rfl, rfl⟩ := List.cons.inj hl
      exact hc l rfl rfl
    rw [expandLetters_cons hprefix]
    exact .char hprefix ih
  | case3 => exact .nil

theorem expands_iff {l t : List Char} : Expands l t ↔ t = expandLetters l := by
  constructor
  · intro h
    induction h with
    | nil => rfl
    | token _ ih => rw [expandLetters_token, ih]
    | char hc _ ih => rw [expandLetters_cons hc, ih]
  · rintro rfl
    exact expands_expandLetters l

/-! ## Offsets -/

theorem readNumber_append {l rest : List Char} (hne : l ≠ []) (hl : ∀ c ∈ l, c.isDigit)
    (hrest : rest.head?.any Char.isDigit = false) :
    readNumber (l ++ rest) =
      if decimalValue l < offsetBound then .ok (decimalValue l, rest)
      else .error (.offsetTooLarge (String.ofList (l ++ rest))) := by
  have hempty : ¬ l.isEmpty = true := fun he => hne (List.isEmpty_iff.mp he)
  rw [readNumber, leadingDigits_append hl hrest]
  exact if_neg hempty

theorem readNumber_complete {l : List Char} {n : Nat} (h : WritesNumber l n) {c : Char}
    (hc : ¬ c.isDigit) (rest : List Char) : readNumber (l ++ c :: rest) = .ok (n, c :: rest) := by
  have hrest : (c :: rest).head?.any Char.isDigit = false := Bool.eq_false_iff.mpr hc
  have hbound : n < offsetBound := h.lt_size
  rw [readNumber_append h.ne_nil h.isDigit hrest, h.value_eq, if_pos hbound]

theorem readNumber_sound {l rest : List Char} {n : Nat} (h : readNumber l = .ok (n, rest)) :
    ∃ digits, WritesNumber digits n ∧ l = digits ++ rest := by
  rw [readNumber, leadingDigits] at h
  dsimp only at h
  split at h
  · cases h
  · next hempty =>
    split at h
    · next hbound =>
      obtain ⟨rfl, rfl⟩ := Prod.mk.inj (Except.ok.inj h)
      refine ⟨l.takeWhile Char.isDigit, ⟨?_, ?_, rfl, hbound⟩, ?_⟩
      · exact fun hnil => hempty (List.isEmpty_iff.mpr hnil)
      · exact fun c hc => List.mem_takeWhile_imp hc
      · exact List.takeWhile_append_dropWhile.symm
    · cases h

theorem closeOffset_sound {o o' : Offset} {l : List Char} (h : closeOffset o l = .ok o') :
    o = o' ∧ ∃ rest, l = ']' :: rest := by
  unfold closeOffset at h
  split at h
  · next rest => exact ⟨Except.ok.inj h, rest, rfl⟩
  · cases h

theorem readRangeEnd?_sound {l rest : List Char} {n : Nat}
    (h : readRangeEnd? l = some (n, rest)) :
    ∃ digits, WritesNumber digits n ∧ l = '-' :: (digits ++ rest) := by
  unfold readRangeEnd? at h
  split at h
  · next l =>
    cases hread : readNumber l with
    | error e =>
      rw [hread] at h
      cases h
    | ok r =>
      rw [hread] at h
      cases h
      obtain ⟨digits, hdigits, rfl⟩ := readNumber_sound hread
      exact ⟨digits, hdigits, rfl⟩
  · cases h

theorem readOffset_sound {l : List Char} {o : Offset} (h : readOffset l = .ok o) :
    WritesOffset l o := by
  rw [readOffset] at h
  obtain ⟨⟨n, rest⟩, hn, hclose⟩ := exists_of_bind_eq_ok h
  obtain ⟨digits, hdigits, rfl⟩ := readNumber_sound hn
  dsimp only at hclose
  split at hclose
  · next m rest hm =>
    obtain ⟨digits', hdigits', rfl⟩ := readRangeEnd?_sound hm
    obtain ⟨rfl, rest, rfl⟩ := closeOffset_sound hclose
    exact .range hdigits hdigits'
  · obtain ⟨rfl, rest, rfl⟩ := closeOffset_sound hclose
    exact .position hdigits

theorem readOffset_complete {l : List Char} {o : Offset} (h : WritesOffset l o) :
    readOffset l = .ok o := by
  have hbracket : ¬ ']'.isDigit := by decide
  have hhyphen : ¬ '-'.isDigit := by decide
  cases h with
  | position hn =>
    rw [readOffset, readNumber_complete hn hbracket]
    rfl
  | @range l l' rest n m hn hm =>
    have hlast : readRangeEnd? ('-' :: (l' ++ ']' :: rest)) = some (m, ']' :: rest) := by
      rw [readRangeEnd?, readNumber_complete hm hbracket]
      rfl
    rw [readOffset, readNumber_complete hn hhyphen, ok_bind]
    dsimp only
    rw [hlast]
    rfl

/-! ## Indicators and selectors -/

theorem writesCondition_iff {c : Char} {k : IndicatorCondition} :
    WritesCondition c k ↔ k = .ofChar c := by
  constructor
  · rintro (_ | hc)
    · rfl
    · rw [IndicatorCondition.ofChar, if_neg hc]
  · rintro rfl
    by_cases hc : c = '*'
    · rw [IndicatorCondition.ofChar, if_pos hc, hc]
      exact .any
    · rw [IndicatorCondition.ofChar, if_neg hc]
      exact .exact hc

theorem head?_ne_some {c : Char} {l : List Char} (h : ∀ l', l = c :: l' → False) :
    l.head? ≠ some c := fun hc =>
  have ⟨l', hl'⟩ := List.head?_eq_some_iff.mp hc
  h l' hl'

theorem readIndicators_sound {l rest : List Char} {ind1 ind2 : IndicatorCondition}
    (h : readIndicators l = .ok ((ind1, ind2), rest)) : WritesIndicators l ind1 ind2 rest := by
  unfold readIndicators at h
  split at h
  · cases h
    exact .closed (writesCondition_iff.mpr rfl) (writesCondition_iff.mpr rfl)
  · next hrest =>
    cases h
    exact .unclosed (writesCondition_iff.mpr rfl) (writesCondition_iff.mpr rfl)
      (head?_ne_some hrest)
  · cases h
  · next hrest =>
    cases h
    exact .absent (head?_ne_some fun l' => hrest l')

theorem readIndicators_complete {l rest : List Char} {ind1 ind2 : IndicatorCondition}
    (h : WritesIndicators l ind1 ind2 rest) : readIndicators l = .ok ((ind1, ind2), rest) := by
  unfold readIndicators
  cases h with
  | absent h =>
    split
    · exact absurd rfl h
    · exact absurd rfl h
    · exact absurd rfl h
    · rfl
  | closed hi hj =>
    rw [writesCondition_iff.mp hi, writesCondition_iff.mp hj]
    rfl
  | unclosed hi hj h =>
    rw [writesCondition_iff.mp hi, writesCondition_iff.mp hj]
    split
    · next heq =>
      cases heq
      exact absurd rfl h
    · next heq =>
      cases heq
      rfl
    · next hshort heq =>
      cases heq
      exact (hshort _ _ _ rfl).elim
    · next hbar => exact (hbar _ rfl).elim

theorem readSelector_sound {l : List Char} {selection : Selection} {offset : Option Offset}
    (h : readSelector l = .ok (selection, offset)) : WritesSelector l selection offset := by
  unfold readSelector at h
  split at h
  · obtain ⟨o, ho, h⟩ := exists_of_map_eq_ok h
    cases h
    exact .offset (readOffset_sound ho)
  · next hcodes =>
    cases h
    match l with
    | [] => exact .all
    | [c] => exact .each fun hc => hcodes [] (hc ▸ rfl)
    | c :: d :: l => exact .joined fun hc => hcodes (d :: l) (hc ▸ rfl)

theorem readSelector_bracket (l : List Char) :
    readSelector ('[' :: l) = (readOffset l).map fun o => (.all, some o) :=
  rfl

theorem readSelector_of_ne {c : Char} (hc : c ≠ '[') (l : List Char) :
    readSelector (c :: l) = .ok (.ofCodes (c :: l), none) := by
  unfold readSelector
  split
  · next heq => exact absurd (List.cons.inj heq).1 hc
  · rfl

theorem readSelector_complete {l : List Char} {selection : Selection} {offset : Option Offset}
    (h : WritesSelector l selection offset) : readSelector l = .ok (selection, offset) := by
  cases h with
  | offset h =>
    rw [readSelector_bracket, readOffset_complete h]
    rfl
  | all => rfl
  | each hc => exact readSelector_of_ne hc []
  | joined hc => exact readSelector_of_ne hc _

/-! ## Components -/

theorem read_sound {l : List Char} {k : Component} (h : read l = .ok k) : Writes l k := by
  unfold read at h
  split at h
  · obtain ⟨⟨⟨ind1, ind2⟩, rest⟩, hind, hrest⟩ := exists_of_bind_eq_ok h
    obtain ⟨⟨selection, offset⟩, hsel, hk⟩ := exists_of_bind_eq_ok hrest
    cases hk
    exact .mk (readIndicators_sound hind) (readSelector_sound hsel)
  · cases h

theorem read_complete {l : List Char} {k : Component} (h : Writes l k) : read l = .ok k := by
  cases h with
  | mk hind hsel =>
    rw [read, readIndicators_complete hind, ok_bind]
    dsimp only
    rw [readSelector_complete hsel]
    rfl

theorem parse_eq_ok_iff_read {s : String} {k : Component} :
    parse s = .ok k ↔ read (expandLetters s.toList) = .ok k := by
  rw [parse]
  cases read (expandLetters s.toList) with
  | error fault =>
    constructor <;> intro h <;> cases h
  | ok k' =>
    constructor <;> intro h <;> cases h <;> rfl

/-- **The parser reads its grammar.** Every text has one expansion of its letters, and parsing gives
exactly the component that the expansion writes. -/
theorem parse_eq_ok_iff (s : String) :
    ∃ t, (∀ t', Expands s.toList t' ↔ t' = t) ∧ ∀ k, parse s = .ok k ↔ Writes t k := by
  refine ⟨expandLetters s.toList, fun t' => expands_iff, fun k => ?_⟩
  rw [parse_eq_ok_iff_read]
  exact ⟨read_sound, read_complete⟩

end MarcHarvest.Component
