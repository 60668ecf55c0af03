import MarcHarvest.Proofs.Derivation.Reading

/-!
# Which date of publication wins

The date of a record is the one that its control field 008 codes, or else that of the first
publication statement with a date: the 264s in record order, then the 260s, of each field the first
`$c` (`date?`). `precedence` says what follows for two records: a coded date hides all data fields,
without one the payload counts only through its type of date, and fields in an alternate script and
further `$c` never count.

A payload of more than fifteen characters has both slots, so its offsets 6 to 14 determine what it
codes (`codedDate?_congr`).
-/

namespace MarcHarvest.PublicationDate

open Index

/-! ## What a record brings -/

/-- The payload with coded dates, the last one if there are several, and no characters if there is
none. -/
def codedPayload (record : RecordView) : List Char :=
  ((record.control.reverse.find? fun c => c.1 = codedTag).map fun c => c.2.toList).getD []

/-- The date that a payload codes, of the type at offset 6. -/
def codedDate? (payload : List Char) : Option String := payload[6]?.bind (coded? payload)

/-- The first `$c` of a field, if it is not empty. -/
def statement? (f : Field) : Option String := (f.value? 'c').filter fun text => !text.isEmpty

/-- The texts of the publication statements in the order in which they are tried. -/
def statementTexts (record : RecordView) : List String :=
  statementTags.flatMap fun tag => (record.fields.filter fun f => f.tag = tag).filterMap statement?

def firstDate? (type : Option Char) (texts : List String) : Option String :=
  texts.findSome? fun text => ofText? text type

/-- The date of publication of a record. -/
def date? (record : RecordView) : Option String :=
  match codedDate? (codedPayload record) with
  | some date => some date
  | none => firstDate? (codedPayload record)[6]? (statementTexts record)

/-! ## What an index says of it -/

variable {record : RecordView} {i : Interest}

theorem payload_build (hi : i.control) :
    (((build record i).controlField? codedTag).map fun c => c.value.toList).getD [] =
      codedPayload record := by
  have hvalue : ((build record i).controlField? codedTag).map PlacedControl.value = _ :=
    map_value_controlField?_build hi codedTag
  have hlist := congrArg (Option.map String.toList) hvalue
  rw [Option.map_map, Option.map_map] at hlist
  exact congrArg (Option.getD · []) hlist

theorem isDirect_statementTag {t : String} (ht : t ∈ statementTags) (f : Field) :
    isDirect t f = decide (f.tag = t) := by
  refine isDirect_of_ne ?_ f
  rintro rfl
  revert ht
  decide

theorem statements_build {t : String} (ht : t ∈ statementTags) (hi : i.contains t) :
    statements (build record i) t =
      (record.fields.filter fun f => f.tag = t).filterMap statement? := by
  rw [statements_eq, fieldsOf_build hi, List.filter_filterMap]
  congr 1
  exact List.filter_congr fun f _ => isDirect_statementTag ht f

theorem findSome?_flatMap {α β γ : Type} (f : α → List β) (g : β → Option γ) (l : List α) :
    (l.flatMap f).findSome? g = l.findSome? fun a => (f a).findSome? g := by
  induction l with
  | nil => rfl
  | cons a rest ih =>
    rw [List.flatMap_cons, List.findSome?_append, ih, List.findSome?_cons]
    cases (f a).findSome? g <;> rfl

theorem described?_build (hi : ∀ t ∈ statementTags, i.contains t) (type : Option Char) :
    described? (build record i) type = firstDate? type (statementTexts record) := by
  rw [firstDate?, statementTexts, findSome?_flatMap, described?]
  exact findSome?_congr fun t ht => by rw [statements_build ht (hi t ht)]

theorem publicationDate?_build (hi : Derivation.publicationDate.Supplied i) :
    publicationDate? (build record i) = date? record := by
  unfold publicationDate? date?
  simp only
  rw [payload_build (hi.2 rfl), described?_build hi.1]
  change (codedDate? (codedPayload record) <|> _) = _
  cases codedDate? (codedPayload record) with
  | some date => rfl
  | none => rfl

/-! ## What a payload codes -/

theorem codedDate?_of_short {p : List Char} (hp : p.length < 11) : codedDate? p = none := by
  unfold codedDate?
  cases p[6]? with
  | none => rfl
  | some type =>
    rw [Option.bind_some, coded?, if_pos hp]

theorem take_drop_congr {p q : List Char} {m n : Nat}
    (h : ∀ k, m ≤ k → k < m + n → p[k]? = q[k]?) : (p.drop m).take n = (q.drop m).take n := by
  refine List.ext_getElem? fun k => ?_
  rw [List.getElem?_take, List.getElem?_take, List.getElem?_drop, List.getElem?_drop]
  by_cases hk : k < n
  · rw [if_pos hk, if_pos hk]
    exact h (m + k) (by omega) (by omega)
  · rw [if_neg hk, if_neg hk]

/-- Offsets 6 to 14 determine what a payload with more than 15 characters codes. -/
theorem codedDate?_congr {p q : List Char} (hp : 15 < p.length) (hq : 15 < q.length)
    (h : ∀ k, 6 ≤ k → k ≤ 14 → p[k]? = q[k]?) : codedDate? p = codedDate? q := by
  have hfirst : firstSlot? p = firstSlot? q := by
    rw [firstSlot?, firstSlot?, take_drop_congr fun k hk hk' => h k (by omega) (by omega)]
  have hsecond : secondSlot? p = secondSlot? q := by
    rw [secondSlot?, secondSlot?, if_pos hp, if_pos hq,
      take_drop_congr fun k hk hk' => h k (by omega) (by omega)]
  have hp' : ¬ p.length < 11 := by omega
  have hq' : ¬ q.length < 11 := by omega
  rw [codedDate?, codedDate?, h 6 (by omega) (by omega)]
  congr 1
  funext type
  unfold coded?
  simp only
  rw [if_neg hp', if_neg hq', hfirst, hsecond]

/-! ## Two records -/

/-- Whether two fields agree in what a publication statement reads. -/
def SameStatement (f g : Field) : Prop := f.tag = g.tag ∧ f.value? 'c' = g.value? 'c'

/-- Only fields with a tag of publication statements bring texts, and each through its first
`$c`. -/
theorem filterMap_statement?_congr {t : String} {l m : List Field}
    (h : List.Forall₂ SameStatement l m) :
    (l.filter fun f => f.tag = t).filterMap statement? =
      (m.filter fun f => f.tag = t).filterMap statement? := by
  induction h with
  | nil => rfl
  | @cons f g l m hfg _ ih =>
    obtain ⟨htag, hvalue⟩ := hfg
    have hstatement : statement? f = statement? g := by rw [statement?, statement?, hvalue]
    by_cases hf : f.tag = t
    · have hg : g.tag = t := htag ▸ hf
      rw [List.filter_cons_of_pos (by simpa using hf), List.filter_cons_of_pos (by simpa using hg),
        List.filterMap_cons, List.filterMap_cons, hstatement, ih]
    · have hg : ¬ g.tag = t := htag ▸ hf
      rw [List.filter_cons_of_neg (by simpa using hf), List.filter_cons_of_neg (by simpa using hg),
        ih]

theorem filter_tag_not_alternate {t : String} (ht : t ∈ statementTags) (l : List Field) :
    (l.filter fun f => !f.isAlternate).filter (fun f => f.tag = t) =
      l.filter fun f => f.tag = t := by
  rw [List.filter_filter]
  refine List.filter_congr fun f _ => ?_
  rw [← isDirect_statementTag ht f, isDirect]
  cases f.isAlternate <;> simp

theorem statementTexts_congr {r r' : RecordView}
    (h : List.Forall₂ SameStatement (r.fields.filter fun f => !f.isAlternate)
      (r'.fields.filter fun f => !f.isAlternate)) : statementTexts r = statementTexts r' := by
  refine List.flatMap_congr fun t ht => ?_
  rw [← filter_tag_not_alternate ht r.fields, ← filter_tag_not_alternate ht r'.fields]
  exact filterMap_statement?_congr h

theorem date?_of_coded {r : RecordView} {date : String}
    (h : codedDate? (codedPayload r) = some date) : date? r = some date := by
  rw [date?, h]

theorem date?_of_not_coded {r : RecordView} (h : codedDate? (codedPayload r) = none) :
    date? r = firstDate? (codedPayload r)[6]? (statementTexts r) := by
  rw [date?, h]

/-! ## Precedence -/

/-- How a date depends on the record. -/
structure Precedence (date : RecordView → Option String) : Prop where
  /-- A coded date wins. -/
  coded : ∀ r d, codedDate? (codedPayload r) = some d → date r = some d
  /-- It does not depend on any data field. -/
  coded_only : ∀ r r', codedPayload r = codedPayload r' → codedDate? (codedPayload r) ≠ none →
    date r = date r'
  /-- Fewer than eleven characters code no date. -/
  coded_short : ∀ p : List Char, p.length < 11 → codedDate? p = none
  /-- Of more than fifteen characters those at offsets 6 to 14 decide. -/
  coded_window : ∀ p q : List Char, 15 < p.length → 15 < q.length →
    (∀ k, 6 ≤ k → k ≤ 14 → p[k]? = q[k]?) → codedDate? p = codedDate? q
  /-- Without a coded date the first statement that has one gives the date. -/
  described : ∀ r, codedDate? (codedPayload r) = none →
    date r = firstDate? (codedPayload r)[6]? (statementTexts r)
  /-- Then the payload counts through its type of date alone. -/
  described_only : ∀ r r', codedDate? (codedPayload r) = none →
    codedDate? (codedPayload r') = none → (codedPayload r)[6]? = (codedPayload r')[6]? →
    r.fields = r'.fields → date r = date r'
  /-- Fields in an alternate script never count, and of other fields at most the first `$c`. -/
  statements_only : ∀ r r', codedPayload r = codedPayload r' →
    List.Forall₂ SameStatement (r.fields.filter fun f => !f.isAlternate)
      (r'.fields.filter fun f => !f.isAlternate) → date r = date r'

theorem precedence_date? : Precedence date? where
  coded _ _ h := date?_of_coded h
  coded_only r r' hpayload h := by
    obtain ⟨d, hd⟩ := Option.ne_none_iff_exists'.mp h
    rw [date?_of_coded hd, date?_of_coded (hpayload ▸ hd)]
  coded_short _ hp := codedDate?_of_short hp
  coded_window _ _ hp hq h := codedDate?_congr hp hq h
  described _ h := date?_of_not_coded h
  described_only r r' h h' htype hfields := by
    have htexts : statementTexts r = statementTexts r' := by
      rw [statementTexts, statementTexts, hfields]
    rw [date?_of_not_coded h, date?_of_not_coded h', htype, htexts]
  statements_only r r' hpayload h := by
    rw [date?, date?, hpayload, statementTexts_congr h]

/-- **Coded dates come before publication statements.** On every index that holds what it reads, the
derivation keeps the values that it is given and appends the date of the record, if there is one. -/
theorem apply_publicationDate :
    Precedence date? ∧ ∀ i, Derivation.publicationDate.Supplied i →
      ∀ record languages values,
        Derivation.publicationDate.apply (build record i) languages values =
          values ++ (date? record).toList := by
  refine ⟨precedence_date?, fun i hi record languages values => ?_⟩
  rw [Derivation.apply, publicationDate?_build hi]

/-- A type without coded dates, statements without a date, and a date where it does not count. -/
def undatedCodes : RecordView where
  control := [("008", "871002s1986    "), ("008", "871002n19311940xx")]
  fields := [
    ⟨"880", ' ', ' ', [⟨'6', "264-01"⟩, ⟨'c', "1999"⟩]⟩,
    ⟨"260", ' ', ' ', [⟨'a', "Tokyo"⟩, ⟨'c', "[1950-1955]"⟩]⟩,
    ⟨"264", ' ', '1', [⟨'b', "Jinja"⟩]⟩,
    ⟨"264", ' ', '1', [⟨'c', "n.d."⟩, ⟨'c', "2001"⟩]⟩]

theorem apply_publicationDate_undatedCodes :
    Derivation.publicationDate.Supplied (Derivation.publicationDate.addInterest .least) ∧
    codedDate? (codedPayload undatedCodes) = none ∧
    Derivation.publicationDate.apply
      (build undatedCodes (Derivation.publicationDate.addInterest .least)) .standard ["kept"] =
        ["kept", "1950/1955"] := by
  have hi : Derivation.publicationDate.Supplied
      (Derivation.publicationDate.addInterest .least) := by
    refine ⟨fun t ht => ?_, fun _ => rfl⟩
    simpa [Derivation.addInterest, Derivation.needsControl] using Or.inl ht
  have hcoded : codedDate? (codedPayload undatedCodes) = none := by decide
  refine ⟨hi, hcoded, ?_⟩
  rw [apply_publicationDate.2 _ hi, apply_publicationDate.1.described _ hcoded]
  decide

end MarcHarvest.PublicationDate
