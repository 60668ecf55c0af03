import MarcHarvest.Proofs.Component.Grammar

/-!
# Faults of components

A text that writes no component is refused at one place. `Refuses` says which: how the reading ends, what
is left of the text there and what was expected. A bar and a bracket commit the reader, so behind them
there is no second reading; within brackets a range that is not complete falls back to its first
number, and then the closing bracket is missed behind that. The fault of the parser is the one of
this relation, and its report quotes the component as it was given (`parse_eq_error_iff`).
-/

namespace MarcHarvest.Component

open Text

/-! ## The place of a fault -/

/-- All digits at the start of a text, at least one, and what follows them. -/
structure LeadingDigits (digits rest : List Char) : Prop where
  ne_nil : digits ≠ []
  isDigit : ∀ c ∈ digits, c.isDigit
  stop : rest.head?.any Char.isDigit = false

/-- What is left of the text after an opening bracket, and what was expected there. -/
inductive RefusesOffset : List Char → List Char → String → Prop
  | digit {l : List Char} (h : l.head?.any Char.isDigit = false) : RefusesOffset l l "Digit"
  | size {n rest : List Char} (hn : LeadingDigits n rest) (h : UInt64.size ≤ decimalValue n) :
      RefusesOffset (n ++ rest) (n ++ rest) "MapRes"
  | position {n rest : List Char} (hn : LeadingDigits n rest) (h : decimalValue n < UInt64.size)
      (hrange : ∀ m after, rest = '-' :: (m ++ after) → LeadingDigits m after →
        UInt64.size ≤ decimalValue m)
      (hclose : rest.head? ≠ some ']') : RefusesOffset (n ++ rest) rest "Char"
  | range {n m rest : List Char} (hn : LeadingDigits n ('-' :: (m ++ rest)))
      (h : decimalValue n < UInt64.size) (hm : LeadingDigits m rest)
      (h' : decimalValue m < UInt64.size) (hclose : rest.head? ≠ some ']') :
      RefusesOffset (n ++ '-' :: (m ++ rest)) rest "Char"

/-- How the reading of a text ends, what is left of it and what was expected, where the text writes no
component. -/
inductive Refuses : List Char → String → List Char → String → Prop
  | tag {t : List Char} (h : t.length < 3) : Refuses t "Error" t "Eof"
  | indicators {a b c : Char} {l : List Char} (h : l.length < 2) :
      Refuses (a :: b :: c :: '|' :: l) "Failure" [] "Eof"
  | offset {a b c : Char} {l l' rest : List Char} {code : String}
      {ind1 ind2 : IndicatorCondition} (hind : WritesIndicators l ind1 ind2 ('[' :: l'))
      (h : RefusesOffset l' rest code) : Refuses (a :: b :: c :: l) "Failure" rest code

/-- Whether a fault is reported in these words. -/
structure Reports (f : ComponentFault) (kind : String) (rest : List Char) (code : String) :
    Prop where
  outcome_eq : f.outcome = kind
  rest_eq : f.rest = String.ofList rest
  code_eq : f.code = code

theorem Reports.eq {f : ComponentFault} {kind kind' code code' : String} {rest rest' : List Char}
    (h : Reports f kind rest code) (h' : Reports f kind' rest' code') :
    kind = kind' ∧ rest = rest' ∧ code = code' := by
  have hrest := h.rest_eq.symm.trans h'.rest_eq
  exact ⟨h.outcome_eq.symm.trans h'.outcome_eq, String.ofList_inj.mp hrest,
    h.code_eq.symm.trans h'.code_eq⟩

/-! ## Numbers -/

variable {l rest : List Char} {f : ComponentFault}

theorem exists_leadingDigits (l : List Char) :
    l.head?.any Char.isDigit = false ∨ ∃ n rest, LeadingDigits n rest ∧ l = n ++ rest := by
  cases l with
  | nil => exact Or.inl rfl
  | cons c l =>
    cases hc : c.isDigit with
    | false => exact Or.inl hc
    | true =>
      refine Or.inr ⟨(c :: l).takeWhile Char.isDigit, (c :: l).dropWhile Char.isDigit, ⟨?_, ?_, ?_⟩,
        List.takeWhile_append_dropWhile.symm⟩
      · rw [List.takeWhile_cons_of_pos hc]
        exact List.cons_ne_nil _ _
      · exact fun d hd => List.mem_takeWhile_imp hd
      · exact any_head?_dropWhile _ _

theorem readNumber_of_no_digit (h : l.head?.any Char.isDigit = false) :
    readNumber l = .error (.digitExpected (String.ofList l)) := by
  have hnone : leadingDigits l = ([], l) :=
    leadingDigits_append (fun c hc => absurd hc List.not_mem_nil) h
  rw [readNumber, hnone]
  rfl

theorem LeadingDigits.readNumber_eq {n : List Char} (h : LeadingDigits n rest) :
    readNumber (n ++ rest) =
      if decimalValue n < UInt64.size then .ok (decimalValue n, rest)
      else .error (.offsetTooLarge (String.ofList (n ++ rest))) :=
  readNumber_append h.ne_nil h.isDigit h.stop

theorem readRangeEnd?_cases (l : List Char) :
    (∃ m after, l = '-' :: (m ++ after) ∧ LeadingDigits m after ∧ decimalValue m < UInt64.size ∧
      readRangeEnd? l = some (decimalValue m, after)) ∨
    readRangeEnd? l = none ∧ ∀ m after, l = '-' :: (m ++ after) → LeadingDigits m after →
      UInt64.size ≤ decimalValue m := by
  cases hend : readRangeEnd? l with
  | some r =>
    unfold readRangeEnd? at hend
    split at hend
    · next l =>
      rcases exists_leadingDigits l with hnone | ⟨m, after, hm, rfl⟩
      · rw [readNumber_of_no_digit hnone] at hend
        cases hend
      · rw [hm.readNumber_eq] at hend
        split at hend
        · next hsize =>
          cases hend
          exact Or.inl ⟨m, after, rfl, hm, hsize, rfl⟩
        · cases hend
    · cases hend
  | none =>
    refine Or.inr ⟨rfl, ?_⟩
    rintro m after rfl hm
    rw [readRangeEnd?, hm.readNumber_eq] at hend
    by_contra hsize
    rw [if_pos (Nat.lt_of_not_le hsize)] at hend
    cases hend

/-! ## Offsets -/

theorem closeOffset_eq_error_iff {o : Offset} :
    closeOffset o l = .error f ↔ l.head? ≠ some ']' ∧ f = .bracketExpected (String.ofList l) := by
  unfold closeOffset
  split
  · exact ⟨fun h => (by cases h), fun h => absurd rfl h.1⟩
  · next hclose =>
    constructor
    · intro h
      exact ⟨head?_ne_some hclose, (Except.error.inj h).symm⟩
    · rintro ⟨-, rfl⟩
      rfl

theorem refusesOffset_of_readOffset (h : readOffset l = .error f) :
    ∃ rest code, RefusesOffset l rest code ∧ Reports f "Failure" rest code := by
  rcases exists_leadingDigits l with hnone | ⟨n, rest, hn, rfl⟩
  · rw [readOffset, readNumber_of_no_digit hnone] at h
    cases h
    exact ⟨l, _, .digit hnone, rfl, rfl, rfl⟩
  · rw [readOffset, hn.readNumber_eq] at h
    by_cases hsize : decimalValue n < UInt64.size
    · rw [if_pos hsize, ok_bind] at h
      dsimp only at h
      rcases readRangeEnd?_cases rest with ⟨m, after, rfl, hm, hsize', hend⟩ | ⟨hend, hrange⟩
      · rw [hend] at h
        obtain ⟨hclose, rfl⟩ := closeOffset_eq_error_iff.mp h
        exact ⟨after, _, .range hn hsize hm hsize' hclose, rfl, rfl, rfl⟩
      · rw [hend] at h
        obtain ⟨hclose, rfl⟩ := closeOffset_eq_error_iff.mp h
        exact ⟨rest, _, .position hn hsize hrange hclose, rfl, rfl, rfl⟩
    · rw [if_neg hsize] at h
      cases h
      exact ⟨n ++ rest, _, .size hn (Nat.le_of_not_lt hsize), rfl, rfl, rfl⟩

theorem readOffset_of_refusesOffset {code : String} (h : RefusesOffset l rest code) :
    ∃ f, readOffset l = .error f ∧ Reports f "Failure" rest code := by
  cases h with
  | digit hnone =>
    refine ⟨.digitExpected (String.ofList l), ?_, rfl, rfl, rfl⟩
    rw [readOffset, readNumber_of_no_digit hnone]
    rfl
  | @size n rest hn hsize =>
    refine ⟨.offsetTooLarge (String.ofList (n ++ rest)), ?_, rfl, rfl, rfl⟩
    rw [readOffset, hn.readNumber_eq, if_neg (Nat.not_lt.mpr hsize)]
    rfl
  | position hn hsize hrange hclose =>
    refine ⟨.bracketExpected (String.ofList rest), ?_, rfl, rfl, rfl⟩
    rw [readOffset, hn.readNumber_eq, if_pos hsize, ok_bind]
    dsimp only
    rcases readRangeEnd?_cases rest with ⟨m, after, heq, hm, hsize', -⟩ | ⟨hend, -⟩
    · exact absurd (hrange m after heq hm) (Nat.not_le.mpr hsize')
    · rw [hend]
      exact closeOffset_eq_error_iff.mpr ⟨hclose, rfl⟩
  | @range n m rest hn hsize hm hsize' hclose =>
    refine ⟨.bracketExpected (String.ofList rest), ?_, rfl, rfl, rfl⟩
    have hend : readRangeEnd? ('-' :: (m ++ rest)) = some (decimalValue m, rest) := by
      rw [readRangeEnd?, hm.readNumber_eq, if_pos hsize']
      rfl
    rw [readOffset, hn.readNumber_eq, if_pos hsize, ok_bind]
    dsimp only
    rw [hend]
    exact closeOffset_eq_error_iff.mpr ⟨hclose, rfl⟩

/-! ## Components -/

theorem readIndicators_eq_error_iff :
    readIndicators l = .error f ↔
      (∃ l', l = '|' :: l' ∧ l'.length < 2) ∧ f = .indicatorsTooShort := by
  unfold readIndicators
  split
  · refine ⟨fun h => (by cases h), ?_⟩
    rintro ⟨⟨l', heq, hlt⟩, -⟩
    cases heq
    simp only [List.length_cons] at hlt
    omega
  · refine ⟨fun h => (by cases h), ?_⟩
    rintro ⟨⟨l', heq, hlt⟩, -⟩
    cases heq
    simp only [List.length_cons] at hlt
    omega
  · next l' _ hshort =>
    have hlt : l'.length < 2 := by
      match l' with
      | [] | [_] => simp
      | i :: j :: rest => exact (hshort i j rest rfl).elim
    constructor
    · intro h
      exact ⟨⟨l', rfl, hlt⟩, (Except.error.inj h).symm⟩
    · rintro ⟨-, rfl⟩
      rfl
  · next hbar =>
    refine ⟨fun h => (by cases h), ?_⟩
    rintro ⟨⟨l', heq, -⟩, -⟩
    exact (hbar l' heq).elim

theorem readSelector_eq_error_iff :
    readSelector l = .error f ↔ ∃ l', l = '[' :: l' ∧ readOffset l' = .error f := by
  unfold readSelector
  split
  · next l' =>
    constructor
    · intro h
      refine ⟨l', rfl, ?_⟩
      cases ho : readOffset l' with
      | error g =>
        rw [ho] at h
        exact congrArg Except.error (Except.error.inj h)
      | ok o =>
        rw [ho] at h
        cases h
    · rintro ⟨l'', heq, ho⟩
      cases heq
      rw [ho]
      rfl
  · next hbracket =>
    refine ⟨fun h => (by cases h), ?_⟩
    rintro ⟨l', heq, -⟩
    exact (hbracket l' heq).elim

theorem refuses_of_read (h : read l = .error f) :
    ∃ kind rest code, Refuses l kind rest code ∧ Reports f kind rest code := by
  match l with
  | [] | [_] | [_, _] =>
    cases h
    exact ⟨_, _, _, .tag (by simp), rfl, rfl, rfl⟩
  | a :: b :: c :: l =>
    rw [read] at h
    cases hind : readIndicators l with
    | error g =>
      rw [hind] at h
      cases h
      obtain ⟨⟨l', rfl, hlt⟩, rfl⟩ := readIndicators_eq_error_iff.mp hind
      exact ⟨_, _, _, .indicators hlt, rfl, rfl, rfl⟩
    | ok r =>
      obtain ⟨⟨ind1, ind2⟩, rest⟩ := r
      rw [hind, ok_bind] at h
      dsimp only at h
      cases hsel : readSelector rest with
      | error g =>
        rw [hsel] at h
        cases h
        obtain ⟨l', rfl, hoffset⟩ := readSelector_eq_error_iff.mp hsel
        obtain ⟨rest, code, hrefuses, hreports⟩ := refusesOffset_of_readOffset hoffset
        exact ⟨_, rest, code, .offset (readIndicators_sound hind) hrefuses, hreports⟩
      | ok r =>
        rw [hsel] at h
        cases h

theorem read_of_refuses {kind code : String} (h : Refuses l kind rest code) :
    ∃ f, read l = .error f ∧ Reports f kind rest code := by
  cases h with
  | tag hlt =>
    match l with
    | [] | [_] | [_, _] => exact ⟨.tagTooShort _, rfl, rfl, rfl, rfl⟩
    | a :: b :: c :: l =>
      simp only [List.length_cons] at hlt
      omega
  | @indicators a b c l hlt =>
    refine ⟨.indicatorsTooShort, ?_, rfl, rfl, rfl⟩
    rw [read, readIndicators_eq_error_iff.mpr ⟨⟨l, rfl, hlt⟩, rfl⟩]
    rfl
  | @offset a b c l l' rest code ind1 ind2 hind hrefuses =>
    obtain ⟨f, hoffset, hreports⟩ := readOffset_of_refusesOffset hrefuses
    refine ⟨f, ?_, hreports⟩
    rw [read, readIndicators_complete hind, ok_bind]
    dsimp only
    rw [readSelector_eq_error_iff.mpr ⟨l', rfl, hoffset⟩]
    rfl

theorem suffix_of_writesIndicators {ind1 ind2 : IndicatorCondition}
    (h : WritesIndicators l ind1 ind2 rest) : rest <:+ l := by
  cases h with
  | absent => exact List.suffix_rfl
  | @closed i j => exact ⟨['|', i, j, '|'], rfl⟩
  | @unclosed i j => exact ⟨['|', i, j], rfl⟩

theorem RefusesOffset.suffix {code : String} (h : RefusesOffset l rest code) : rest <:+ l := by
  cases h with
  | digit => exact List.suffix_rfl
  | size => exact List.suffix_rfl
  | @position n => exact ⟨n, rfl⟩
  | @range n m => exact ⟨n ++ '-' :: m, by rw [List.append_assoc, List.cons_append]⟩

theorem Refuses.suffix {kind code : String} (h : Refuses l kind rest code) : rest <:+ l := by
  cases h with
  | tag => exact List.suffix_rfl
  | indicators => exact List.nil_suffix
  | @offset a b c l l' rest code ind1 ind2 hind hrefuses =>
    have hbracket : l' <:+ '[' :: l' := List.suffix_cons ..
    have hl : l <:+ a :: b :: c :: l := ⟨[a, b, c], rfl⟩
    exact ((hrefuses.suffix.trans hbracket).trans (suffix_of_writesIndicators hind)).trans hl

theorem parse_eq_error_malformed_iff {s : String} :
    parse s = .error (.malformedComponent s f) ↔ read (expandLetters s.toList) = .error f := by
  rw [parse]
  cases read (expandLetters s.toList) with
  | error g =>
    constructor <;> intro h <;> cases h <;> rfl
  | ok k =>
    constructor <;> intro h <;> cases h

theorem exists_fault_of_parse {s : String} {e : SpecError} (h : parse s = .error e) :
    ∃ f, e = .malformedComponent s f := by
  rw [parse] at h
  cases hread : read (expandLetters s.toList) with
  | error f =>
    rw [hread] at h
    exact ⟨f, (Except.error.inj h).symm⟩
  | ok c =>
    rw [hread] at h
    cases h

/-- **A fault is reported where it is.** A text is refused with a report just if its fault, once its letters
are expanded, is at this place; the rest in the report is what is left of the expanded text, and
the component in it is the one that was given. -/
theorem parse_eq_error_iff (s : String) :
    ∃ t, (∀ t', Expands s.toList t' ↔ t' = t) ∧
      (∀ kind rest code, Refuses t kind rest code ↔
        ∃ f, parse s = .error (.malformedComponent s f) ∧ Reports f kind rest code) ∧
      ∀ e, parse s = .error e → ∃ kind rest code, Refuses t kind rest code ∧ rest <:+ t ∧
        e.message = "malformed field spec component " ++ quote s ++ ": " ++
          ("Parsing " ++ kind ++ ": Error \x7b input: " ++ quote (String.ofList rest) ++
            ", code: " ++ code ++ " \x7d") := by
  refine ⟨expandLetters s.toList, fun t' => expands_iff, fun kind rest code => ?_, fun e he => ?_⟩
  · simp only [parse_eq_error_malformed_iff]
    constructor
    · exact read_of_refuses
    · rintro ⟨f, hread, hreports⟩
      obtain ⟨kind', rest', code', hrefuses, hreports'⟩ := refuses_of_read hread
      obtain ⟨rfl, rfl, rfl⟩ := hreports.eq hreports'
      exact hrefuses
  · obtain ⟨f, rfl⟩ := exists_fault_of_parse he
    obtain ⟨kind, rest, code, hrefuses, rfl, hrest, rfl⟩ :=
      refuses_of_read (parse_eq_error_malformed_iff.mp he)
    refine ⟨_, rest, _, hrefuses, hrefuses.suffix, ?_⟩
    rw [← hrest]
    rfl

/-- A last offset that is too large makes no range, so what is missed is the bracket behind the
first. -/
example : parse "008[3-18446744073709551616]" =
    .error (.malformedComponent "008[3-18446744073709551616]"
      (.bracketExpected "-18446744073709551616]")) := by rfl

end MarcHarvest.Component
