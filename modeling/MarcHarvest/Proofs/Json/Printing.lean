import MarcHarvest.Json.Parser
import MarcHarvest.Json.Printer
import MarcHarvest.Proofs.Json.Structure
import MarcHarvest.Proofs.Text.Decimal

/-!
# Written values are read back

Whatever follows it, a written value is read back to its end (`readValue_print`), unless it ends in a
digit and another digit follows, which in an array or an object does not happen. The induction is on
the value; in each step the reader spends one unit of its fuel and the text gets at least one character
shorter, so twice the length of the text is fuel enough. Hence the text of a value determines the value
(`parse?_toText`).
-/

namespace MarcHarvest.Json

open Text

/-! ## Texts -/

theorem readCodes_shortEscape {letter c : Char} (h : escape? letter = some c) (l : List Char) :
    readCodes ('\\' :: letter :: l) = (readCodes l).map fun r => (c.toNat :: r.1, r.2) := by
  rw [readCodes, h]
  · cases readCodes l <;> rfl
  · rintro _ _ _ _ _ rfl
    cases h

theorem codeUnit?_control : ∀ n, n < 0x20 →
    codeUnit? '0' '0' (Nat.digitChar (n / 16)) (Nat.digitChar (n % 16)) = some n := by
  decide

theorem readCodes_escape (c : Char) (l : List Char) :
    readCodes (escape c ++ l) = (readCodes l).map fun r => (c.toNat :: r.1, r.2) := by
  unfold escape
  split
  case h_8 _ hquote hbackslash _ _ _ _ _ =>
    split
    · next hcontrol =>
      simp only [List.cons_append, List.nil_append]
      rw [readCodes, codeUnit?_control _ hcontrol]
      cases readCodes l <;> rfl
    · next hcontrol =>
      rw [List.singleton_append, readCodes]
      · rw [if_neg hcontrol]
      · exact hquote
      · rintro _ _ _ _ _ rfl
        exact absurd rfl hbackslash
      · rintro _ _ rfl
        exact absurd rfl hbackslash
  all_goals exact readCodes_shortEscape rfl l

theorem readCodes_flatMap_escape (s rest : List Char) :
    readCodes (s.flatMap escape ++ '"' :: rest) = some (s.map Char.toNat, rest) := by
  induction s with
  | nil => rw [List.flatMap_nil, List.nil_append, readCodes, List.map_nil]
  | cons c s ih =>
    rw [List.flatMap_cons, List.append_assoc, readCodes_escape, ih]
    rfl

theorem isSurrogate_toNat (c : Char) :
    isHighSurrogate c.toNat = false ∧ isLowSurrogate c.toNat = false := by
  have hc : c.toNat < 0xd800 ∨ 0xdfff < c.toNat ∧ c.toNat < 0x110000 := c.valid
  simp only [isHighSurrogate, isLowSurrogate, Bool.and_eq_false_iff, decide_eq_false_iff_not]
  omega

theorem decodeCodes_toNat (l : List Char) : decodeCodes (l.map Char.toNat) = some l := by
  induction l with
  | nil => rfl
  | cons c l ih =>
    obtain ⟨hhigh, hlow⟩ := isSurrogate_toNat c
    cases l with
    | nil => simp [decodeCodes, hhigh, hlow]
    | cons d l =>
      rw [List.map_cons] at ih
      simp [decodeCodes, hhigh, hlow, ih]

theorem readText_print (s : String) (rest : List Char) :
    readText (s.toList.flatMap escape ++ '"' :: rest) = some (some s, rest) := by
  simp only [readText, readCodes_flatMap_escape, Option.map_some, decodeCodes_toNat,
    String.ofList_toList]

/-! ## Numbers -/

theorem isDigit_toDigits (n : Nat) : ∀ c ∈ Nat.toDigits 10 n, c.isDigit := fun _ hc =>
  Nat.isDigit_of_mem_toDigits (by decide) (by decide) hc

theorem readDigits_toDigits (n : Nat) {rest : List Char}
    (hrest : rest.head?.any Char.isDigit = false) :
    readDigits (Nat.toDigits 10 n ++ rest) = some (Nat.toDigits 10 n, rest) := by
  have hempty : ¬ (Nat.toDigits 10 n).isEmpty := by
    simp [Nat.toDigits_ne_nil]
  rw [readDigits, leadingDigits_append (isDigit_toDigits n) hrest]
  exact if_neg hempty

theorem decimalValue_toDigits (n : Nat) : decimalValue (Nat.toDigits 10 n) = n :=
  Nat.ofDigitChars_ten_toDigits

theorem exists_toDigits_eq_cons (n : Nat) :
    ∃ d ds, Nat.toDigits 10 n = d :: ds ∧ d.isDigit ∧ (d = '0' → n = 0) := by
  induction n using Nat.strong_induction_on with
  | h n ih =>
    by_cases hn : n < 10
    · have hzero : ∀ m, m < 10 → Nat.digitChar m = '0' → m = 0 := by decide
      exact ⟨_, [], Nat.toDigits_of_lt_base hn, isDigit_digitChar hn, hzero n hn⟩
    · obtain ⟨d, ds, hd, hdigit, hzero⟩ := ih (n / 10) (by omega)
      refine ⟨d, ds ++ [Nat.digitChar (n % 10)], ?_, hdigit, fun h => ?_⟩
      · rw [Nat.toDigits_of_base_le (by decide) (by omega), hd, List.cons_append]
      · have := hzero h
        omega

theorem readWhole_toDigits (n : Nat) {rest : List Char}
    (hrest : rest.head?.any Char.isDigit = false) :
    readWhole (Nat.toDigits 10 n ++ rest) = some (Nat.toDigits 10 n, rest) := by
  obtain ⟨d, ds, hd, -, hzero⟩ := exists_toDigits_eq_cons n
  by_cases h : d = '0'
  · rw [hzero h]
    rfl
  · have hread := readDigits_toDigits n hrest
    rw [hd, List.cons_append] at hread ⊢
    rw [readWhole]
    · exact hread
    · exact fun _ heq => h (List.cons.inj heq).1

theorem readSigned_printInt (x : Int) {rest : List Char}
    (hrest : rest.head?.any Char.isDigit = false) :
    readSigned (printInt x ++ rest) = some (x, rest) := by
  cases x with
  | ofNat n =>
    obtain ⟨d, ds, hd, hdigit, -⟩ := exists_toDigits_eq_cons n
    have hread := readDigits_toDigits n hrest
    rw [printInt, readSigned.eq_def]
    split
    · next h =>
      rw [hd, List.cons_append] at h
      cases h
      cases hdigit
    · next h =>
      rw [hd, List.cons_append] at h
      cases h
      cases hdigit
    · simp only [hread, Option.map_some, decimalValue_toDigits]
      rfl
  | negSucc n =>
    simp only [printInt, List.cons_append, readSigned, readDigits_toDigits _ hrest,
      Option.map_some, decimalValue_toDigits]
    rfl

theorem readUnsigned_print (x : JsonNumber) {rest : List Char}
    (hrest : rest.head?.any Char.isDigit = false) :
    readUnsigned x.negative (Nat.toDigits 10 x.mantissa ++ 'e' :: (printInt x.exponent ++ rest)) =
      some (.number x, rest) := by
  let tail := 'e' :: (printInt x.exponent ++ rest)
  have hwhole : readWhole (Nat.toDigits 10 x.mantissa ++ tail) =
      some (Nat.toDigits 10 x.mantissa, tail) := readWhole_toDigits x.mantissa rfl
  have hfraction : readFraction tail = some ([], tail) := rfl
  have hexponent : readExponent tail = some (x.exponent, rest) :=
    readSigned_printInt x.exponent hrest
  have hvalue : decimalValue (Nat.toDigits 10 x.mantissa ++ []) = x.mantissa := by
    rw [List.append_nil, decimalValue_toDigits]
  change readUnsigned x.negative (Nat.toDigits 10 x.mantissa ++ tail) = _
  simp only [readUnsigned, hwhole, Option.bind_eq_bind, Option.bind_some, hfraction, hexponent,
    hvalue, List.length_nil, Option.pure_def]
  simp

/-! ## Values -/

theorem isSpace_of_isDigit {c : Char} (hc : c.isDigit) : isSpace c = false ∧ c ≠ ']' := by
  obtain ⟨n, hn, rfl⟩ := exists_digitChar_eq hc
  have hall : ∀ n, n < 10 → isSpace (Nat.digitChar n) = false ∧ Nat.digitChar n ≠ ']' := by decide
  exact hall n hn

theorem exists_printNumber_eq_cons (x : JsonNumber) :
    ∃ c l, printNumber x = c :: l ∧ isSpace c = false ∧ c ≠ ']' := by
  obtain ⟨d, ds, hd, hdigit, -⟩ := exists_toDigits_eq_cons x.mantissa
  rw [printNumber, hd]
  cases x.negative with
  | false => exact ⟨d, _, rfl, isSpace_of_isDigit hdigit⟩
  | true => exact ⟨'-', _, rfl, by decide⟩

/-- A written value starts with a character that is neither white space nor the end of an array. -/
theorem exists_print_eq_cons (j : Json) :
    ∃ c l, j.print = c :: l ∧ isSpace c = false ∧ c ≠ ']' := by
  cases j with
  | null => exact ⟨'n', _, rfl, by decide⟩
  | bool b => cases b with
    | false => exact ⟨'f', _, rfl, by decide⟩
    | true => exact ⟨'t', _, rfl, by decide⟩
  | number x => exact exists_printNumber_eq_cons x
  | text s => exact ⟨'"', _, rfl, by decide⟩
  | array items => exact ⟨'[', _, rfl, by decide⟩
  | object members => exact ⟨'\x7b', _, rfl, by decide⟩
  | broken => exact ⟨'"', _, rfl, by decide⟩

theorem skipSpace_print (j : Json) (rest : List Char) :
    skipSpace (j.print ++ rest) = j.print ++ rest := by
  obtain ⟨c, l, hl, hspace, -⟩ := exists_print_eq_cons j
  rw [hl, List.cons_append, skipSpace, List.dropWhile_cons_of_neg (by simp [hspace])]

theorem ofMembers_map (members : List (String × Json)) :
    ofMembers (members.map fun m => (some m.1, m.2)) = .object members := by
  have hkeys : (members.map fun m => (some m.1, m.2)).mapM
      (fun m : Option String × Json => m.1.map fun key => (key, m.2)) = some members := by
    refine mapM_map_eq_some (fun _ => ?_) members
    rfl
  rw [ofMembers, hkeys]

theorem readValue_quote (fuel : Nat) (l : List Char) :
    readValue (fuel + 1) ('"' :: l) =
      (readText l).bind fun r => some ((r.1.map Json.text).getD .broken, r.2) := rfl

theorem readValue_text (s : String) (fuel : Nat) (rest : List Char) :
    readValue (fuel + 1) (printText s ++ rest) = some (.text s, rest) := by
  rw [printText, List.cons_append, List.append_assoc, readValue_quote]
  exact congrArg (Option.bind · _) (readText_print s rest)

/-- Half of a surrogate pair makes a text broken. -/
theorem readText_broken (rest : List Char) :
    readText ('\\' :: 'u' :: 'd' :: '8' :: '0' :: '0' :: '"' :: rest) = some (none, rest) := by
  have hunit : codeUnit? 'd' '8' '0' '0' = some 0xd800 := by decide
  rw [readText, readCodes, hunit, readCodes]
  rfl

theorem readValue_broken (fuel : Nat) (rest : List Char) :
    readValue (fuel + 1) (print .broken ++ rest) = some (.broken, rest) := by
  change readValue (fuel + 1)
    ('"' :: '\\' :: 'u' :: 'd' :: '8' :: '0' :: '0' :: '"' :: rest) = _
  rw [readValue_quote, readText_broken]
  rfl

theorem readValue_number (x : JsonNumber) (fuel : Nat) {rest : List Char}
    (hrest : rest.head?.any Char.isDigit = false) :
    readValue (fuel + 1) (printNumber x ++ rest) = some (.number x, rest) := by
  have hread := readUnsigned_print x hrest
  have hskip := skipSpace_print (.number x) rest
  obtain ⟨negative, mantissa, exponent⟩ := x
  rw [print_number, printNumber, List.append_assoc, List.append_assoc, List.cons_append] at hskip
  rw [readValue, printNumber, List.append_assoc, List.append_assoc, List.cons_append, hskip]
  cases negative with
  | true => exact hread
  | false =>
    obtain ⟨d, ds, hd, hdigit, -⟩ := exists_toDigits_eq_cons mantissa
    change readUnsigned false _ = _ at hread
    rw [hd] at hread ⊢
    split
    -- none of the other beginnings is a digit
    case h_8 => exact hread
    all_goals
      next heq =>
      obtain rfl := (List.cons.inj heq).1
      cases hdigit

theorem readValue_bracket (fuel : Nat) (l : List Char) :
    readValue (fuel + 1) ('[' :: l) = match skipSpace l with
      | ']' :: rest => some (.array [], rest)
      | rest => (readItems fuel rest).map fun r => (.array r.1, r.2) := rfl

theorem readValue_brace (fuel : Nat) (l : List Char) :
    readValue (fuel + 1) ('\x7b' :: l) = match skipSpace l with
      | '\x7d' :: rest => some (.object [], rest)
      | rest => (readMembers fuel rest).map fun r => (ofMembers r.1, r.2) := rfl

theorem readValue_array {items : List Json} {fuel : Nat} {rest : List Char}
    (h : items ≠ [] → readItems fuel (printItems items ++ rest) = some (items, rest)) :
    readValue (fuel + 1) ('[' :: printItems items ++ rest) = some (.array items, rest) := by
  cases items with
  | nil => rfl
  | cons j items =>
    have hread := h (List.cons_ne_nil j items)
    obtain ⟨c, l, hl, hspace, hclose⟩ : ∃ c l, printItems (j :: items) = c :: l ∧
        isSpace c = false ∧ c ≠ ']' := by
      obtain ⟨c, l, hl, hc⟩ := exists_print_eq_cons j
      cases items with
      | nil => exact ⟨c, l ++ [']'], by rw [printItems_singleton, hl, List.cons_append], hc⟩
      | cons k items => exact ⟨c, _, by rw [printItems_cons_cons, hl, List.cons_append], hc⟩
    have hskip : skipSpace (printItems (j :: items) ++ rest) = printItems (j :: items) ++ rest := by
      rw [hl, List.cons_append, skipSpace, List.dropWhile_cons_of_neg (by simp [hspace])]
    rw [List.cons_append, readValue_bracket, hskip]
    split
    · next heq =>
      rw [hl] at heq
      exact absurd (List.cons.inj heq).1 hclose
    · rw [hread]
      rfl

theorem readValue_object {members : List (String × Json)} {fuel : Nat} {rest : List Char}
    (h : members ≠ [] → readMembers fuel (printMembers members ++ rest) =
      some (members.map fun m => (some m.1, m.2), rest)) :
    readValue (fuel + 1) ('\x7b' :: printMembers members ++ rest) =
      some (.object members, rest) := by
  cases members with
  | nil => rfl
  | cons m members =>
    have hread := h (List.cons_ne_nil m members)
    obtain ⟨l, hl⟩ : ∃ l, printMembers (m :: members) = '"' :: l := by
      cases members with
      | nil => exact ⟨_, rfl⟩
      | cons n members => exact ⟨_, rfl⟩
    have hskip : skipSpace (printMembers (m :: members) ++ rest) =
        printMembers (m :: members) ++ rest := by
      rw [hl]
      rfl
    rw [List.cons_append, readValue_brace, hskip]
    split
    · next heq =>
      rw [hl] at heq
      cases heq
    · rw [hread, Option.map_some, ofMembers_map]

theorem readKey_print (key : String) (rest : List Char) :
    readKey (key.toList.flatMap escape ++ '"' :: ':' :: rest) = some (some key, rest) := by
  rw [readKey, readText_print]
  rfl

section

variable {j : Json} {key : String} {fuel : Nat} {next : List Char}

theorem readItems_step (hj : readValue fuel (j.print ++ next) = some (j, next)) :
    readItems (fuel + 1) (j.print ++ next) = match skipSpace next with
      | ']' :: rest => some ([j], rest)
      | ',' :: rest => (readItems fuel rest).bind fun r => some (j :: r.1, r.2)
      | _ => none := by
  rw [readItems, hj]
  rfl

theorem skipSpace_printText (key : String) (l : List Char) :
    skipSpace (printText key ++ ':' :: l) =
      '"' :: (key.toList.flatMap escape ++ '"' :: ':' :: l) := by
  rw [printText, List.cons_append, List.append_assoc]
  rfl

theorem readMembers_step (hj : readValue fuel (j.print ++ next) = some (j, next)) :
    readMembers (fuel + 1) (printText key ++ ':' :: (j.print ++ next)) = match skipSpace next with
      | '\x7d' :: rest => some ([(some key, j)], rest)
      | ',' :: rest => (readMembers fuel rest).bind fun r => some ((some key, j) :: r.1, r.2)
      | _ => none := by
  have hmember : readMembers (fuel + 1) (printText key ++ ':' :: (j.print ++ next)) =
      (readValue fuel (j.print ++ next)).bind fun v => match skipSpace v.2 with
        | '\x7d' :: rest => some ([(some key, v.1)], rest)
        | ',' :: rest => (readMembers fuel rest).bind fun r => some ((some key, v.1) :: r.1, r.2)
        | _ => none := by
    rw [readMembers, skipSpace_printText]
    simp only [readKey_print]
    rfl
  rw [hmember, hj, Option.bind_some]

end

mutual

/-- A written value is read back, and what follows it is left. -/
theorem readValue_print (j : Json) (fuel : Nat) (rest : List Char)
    (hfuel : 2 * j.print.length ≤ fuel) (hrest : rest.head?.any Char.isDigit = false) :
    readValue fuel (j.print ++ rest) = some (j, rest) := by
  obtain ⟨c, l, hl, -⟩ := exists_print_eq_cons j
  obtain ⟨fuel, rfl⟩ : ∃ k, fuel = k + 1 :=
    ⟨fuel - 1, by rw [hl, List.length_cons] at hfuel; omega⟩
  cases j with
  | null => rfl
  | bool b => cases b <;> rfl
  | number x => exact readValue_number x fuel hrest
  | text s => exact readValue_text s fuel rest
  | array items =>
    rw [print_array, List.length_cons] at hfuel
    exact readValue_array fun hne => readItems_print items fuel rest hne (by omega)
  | object members =>
    rw [print_object, List.length_cons] at hfuel
    exact readValue_object fun hne => readMembers_print members fuel rest hne (by omega)
  | broken => exact readValue_broken fuel rest

theorem readItems_print (items : List Json) (fuel : Nat) (rest : List Char) (hne : items ≠ [])
    (hfuel : 2 * (printItems items).length ≤ fuel) :
    readItems fuel (printItems items ++ rest) = some (items, rest) := by
  match items, hne with
  | [j], _ =>
    rw [printItems_singleton, List.length_append, List.length_singleton] at hfuel
    obtain ⟨fuel, rfl⟩ : ∃ k, fuel = k + 1 := ⟨fuel - 1, by omega⟩
    have hj := readValue_print j fuel (']' :: rest) (by omega) rfl
    rw [printItems_singleton, List.append_assoc, List.singleton_append, readItems_step hj]
    rfl
  | j :: k :: items, _ =>
    rw [printItems_cons_cons, List.length_append, List.length_cons] at hfuel
    obtain ⟨fuel, rfl⟩ : ∃ k, fuel = k + 1 := ⟨fuel - 1, by omega⟩
    have hj := readValue_print j fuel (',' :: (printItems (k :: items) ++ rest)) (by omega) rfl
    have hitems := readItems_print (k :: items) fuel rest (by simp) (by omega)
    rw [printItems_cons_cons, List.append_assoc, List.cons_append, readItems_step hj]
    change (readItems fuel _).bind _ = _
    rw [hitems, Option.bind_some]

theorem readMembers_print (members : List (String × Json)) (fuel : Nat) (rest : List Char)
    (hne : members ≠ []) (hfuel : 2 * (printMembers members).length ≤ fuel) :
    readMembers fuel (printMembers members ++ rest) =
      some (members.map fun m => (some m.1, m.2), rest) := by
  match members, hne with
  | [(key, j)], _ =>
    rw [printMembers_singleton, List.length_append, List.length_cons, List.length_append,
      List.length_singleton] at hfuel
    obtain ⟨fuel, rfl⟩ : ∃ k, fuel = k + 1 := ⟨fuel - 1, by omega⟩
    have hj := readValue_print j fuel ('\x7d' :: rest) (by omega) rfl
    rw [printMembers_singleton, List.append_assoc, List.cons_append, List.append_assoc,
      List.singleton_append, readMembers_step hj]
    rfl
  | (key, j) :: m :: members, _ =>
    rw [printMembers_cons_cons, List.length_append, List.length_cons, List.length_append,
      List.length_cons] at hfuel
    obtain ⟨fuel, rfl⟩ : ∃ k, fuel = k + 1 := ⟨fuel - 1, by omega⟩
    have hj := readValue_print j fuel (',' :: (printMembers (m :: members) ++ rest)) (by omega) rfl
    have hmembers := readMembers_print (m :: members) fuel rest (by simp) (by omega)
    rw [printMembers_cons_cons, List.append_assoc, List.cons_append, List.append_assoc,
      List.cons_append, readMembers_step hj]
    change (readMembers fuel _).bind _ = _
    rw [hmembers, Option.bind_some]
    rfl

end

/-- **Every value is read back from its text.** -/
theorem parse?_toText (j : Json) : parse? j.toText = some j := by
  have hread := readValue_print j (2 * j.print.length + 2) [] (by omega) rfl
  rw [List.append_nil] at hread
  rw [parse?, toText, String.toList_ofList, hread]
  rfl

end MarcHarvest.Json
