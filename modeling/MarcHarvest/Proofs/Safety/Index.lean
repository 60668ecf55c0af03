import MarcHarvest.Proofs.Derivation.Reading
import MarcHarvest.Proofs.Safety.Access

/-!
# Indexing with checks

The pass that builds an index, and the look-ups that inspect tags, with every access checked. Links
are cut at byte offsets, tags of subjects are inspected byte by byte, and fields are counted in
words. None of it can fail, except that a record with 2⁶⁴ fields runs out of numbers
(`build_eq_ok`).
-/

namespace MarcHarvest.Checked

/-! ## Links -/

/-- The tag that a link names: what stands before its fourth character, or all of it. -/
def linkTarget? (link : String) : Except Fault (Option String) := do
  let stop := (charOffset? link 3).getD link.utf8ByteSize
  let (counted, _) ← cut link stop
  if counted.toList.length < 3 then return none
  let (target, _) ← cut link stop
  return some target

def linkedTag? (f : Field) : Except Fault (Option String) :=
  match f.value? '6' with
  | some link => linkTarget? link
  | none => .ok none

theorem getD_charOffset? (s : String) (k : Nat) :
    (charOffset? s k).getD s.utf8ByteSize = (String.ofList (s.toList.take k)).utf8ByteSize := by
  rw [charOffset?_eq]
  split
  · rfl
  · next h =>
    rw [List.take_of_length_le (Nat.le_of_not_lt h), String.ofList_toList]
    rfl

theorem linkTarget?_eq_ok (link : String) : linkTarget? link = .ok (Field.linkTarget? link) := by
  have hcut := cut_take link 3
  rw [← getD_charOffset?] at hcut
  rw [linkTarget?]
  dsimp only
  rw [hcut, ok_bind]
  dsimp only
  rw [ok_bind, String.toList_ofList, Field.linkTarget?]
  split
  · next hshort =>
    rw [List.length_take] at hshort
    split
    · next hl =>
      rw [hl] at hshort
      simp at hshort
    · rfl
  · next hlong =>
    rw [List.length_take] at hlong
    split
    · next hl =>
      rw [hl]
      rfl
    · next hno =>
      match hl : link.toList with
      | [] | [_] | [_, _] => simp [hl] at hlong
      | a :: b :: c :: rest => exact absurd hl (hno a b c rest)

theorem linkedTag?_eq_ok (f : Field) : linkedTag? f = .ok f.linkedTag? := by
  rw [linkedTag?, Field.linkedTag?]
  cases f.value? '6' with
  | none => rfl
  | some link => exact linkTarget?_eq_ok link

/-! ## Filing -/

/-- The state of the pass over the data fields. -/
structure Pass where
  index : Index
  /-- The number of the next field of interest. -/
  next : Nat
  /-- How many fields in an alternate script were not filed. -/
  discarded : Nat

def addField (interest : Interest) (pass : Pass) (f : Field) : Except Fault Pass :=
  if interest.contains f.tag then do
    let entry : PlacedField := ⟨.data pass.next, f⟩
    let next ← increment pass.next
    if f.isAlternate then
      match (← linkedTag? f).filter interest.contains with
      | some tag =>
        let linked := Index.file pass.index.linked tag entry
        return { pass with index := { pass.index with linked }, next }
      | none => return { pass with next, discarded := ← increment pass.discarded }
    else
      let direct := Index.file pass.index.direct f.tag entry
      return { pass with index := { pass.index with direct }, next }
  else .ok pass

/-- Files a control field under its number; gives the number after it. -/
def addControl (state : Index × Nat) (control : String × String) : Except Fault (Index × Nat) := do
  let (index, n) := state
  let next ← increment n
  return ({ index with control := index.control.insert control.1 ⟨.control n, control.2⟩ }, next)

/-- The index of a record. -/
def build (record : RecordView) (interest : Interest) : Except Fault Index := do
  let pass ← record.fields.foldlM (addField interest) ⟨.empty, 0, 0⟩
  if interest.control then
    let (index, _) ← record.control.foldlM addControl (pass.index, 0)
    return index
  return pass.index

variable {interest : Interest}

theorem addField_eq_ok {f : Field} (hf : interest.contains f.tag) (index : Index)
    {n discarded : Nat} (hn : n + 1 < UInt64.size) (hdiscarded : discarded ≤ n) :
    ∃ discarded', discarded' ≤ n + 1 ∧ addField interest ⟨index, n, discarded⟩ f =
      .ok ⟨index.addField interest n f, n + 1, discarded'⟩ := by
  rw [addField, if_pos hf, Index.addField, Index.linkedOfInterest?]
  dsimp only
  rw [increment_of_lt hn, ok_bind]
  by_cases halternate : f.isAlternate
  · rw [if_pos halternate, if_pos halternate, linkedTag?_eq_ok, ok_bind]
    cases f.linkedTag?.filter interest.contains with
    | some tag => exact ⟨discarded, by omega, rfl⟩
    | none =>
      dsimp only
      rw [increment_of_lt (by omega)]
      exact ⟨discarded + 1, by omega, rfl⟩
  · rw [if_neg halternate, if_neg halternate]
    exact ⟨discarded, by omega, rfl⟩

theorem addField_of_not_contains {f : Field} (hf : ¬ interest.contains f.tag) (pass : Pass) :
    addField interest pass f = .ok pass :=
  if_neg hf

/-- No more fields are discarded than are numbered, so one bound is enough for both counters. -/
theorem foldlM_addField (interest : Interest) (fields : List Field) (index : Index)
    {n discarded : Nat} (hn : n + fields.length < UInt64.size) (hdiscarded : discarded ≤ n) :
    ∃ pass, fields.foldlM (addField interest) ⟨index, n, discarded⟩ = .ok pass ∧
      pass.index = index.addFields interest n (fields.filter fun f => interest.contains f.tag) := by
  induction fields generalizing index n discarded with
  | nil => exact ⟨_, rfl, rfl⟩
  | cons f fields ih =>
    rw [List.length_cons] at hn
    rw [List.foldlM_cons]
    by_cases hf : interest.contains f.tag
    · obtain ⟨discarded', hdiscarded', hstep⟩ := addField_eq_ok hf index (by omega) hdiscarded
      rw [hstep, ok_bind, List.filter_cons_of_pos (by simpa using hf)]
      exact ih _ (by omega) hdiscarded'
    · rw [addField_of_not_contains hf, ok_bind, List.filter_cons_of_neg (by simpa using hf)]
      exact ih index (by omega) hdiscarded

theorem foldlM_addControl {control : List (String × String)} {index : Index} {n : Nat}
    (hn : n + control.length < UInt64.size) :
    control.foldlM addControl (index, n) =
      .ok (index.addControls n control, n + control.length) := by
  induction control generalizing index n with
  | nil => rfl
  | cons c control ih =>
    rw [List.length_cons] at hn
    rw [List.foldlM_cons, addControl, increment_of_lt (by omega), ok_bind]
    refine (ih (by omega)).trans ?_
    rw [List.length_cons, Nat.add_assoc, Nat.add_comm 1, Index.addControls]

theorem build_eq_ok {record : RecordView} (hfields : record.fields.length < UInt64.size)
    (hcontrol : record.control.length < UInt64.size) :
    build record interest = .ok (.build record interest) := by
  have hn : 0 + record.fields.length < UInt64.size := by omega
  obtain ⟨pass, hpass, hindex⟩ :=
    foldlM_addField interest record.fields .empty hn (Nat.le_refl 0)
  rw [build, hpass, ok_bind, hindex, Index.build]
  split
  · rw [foldlM_addControl (by omega)]
    rfl
  · rfl

/-! ## Tags of subjects -/

def bytes (s : String) : List UInt8 := s.toByteArray.data.toList

def isDigitByte (b : UInt8) : Bool := 0x30 ≤ b && b ≤ 0x39

def isSubject (tag : String) : Except Fault Bool := do
  let tag := bytes tag
  if tag.length ≠ 3 then return false
  if (← element tag 0) ≠ 0x36 then return false
  return (← slice tag 1 tag.length).all isDigitByte

def directFieldsWhere (index : Index) (p : String → Except Fault Bool) :
    Except Fault (List PlacedField) := do
  let buckets ← index.direct.toList.filterM fun b => p b.1
  return (buckets.flatMap fun b => b.2.toList).mergeSort fun a b => a.origin.le b.origin

/-- Whether bytes are a six and two digits. -/
def encodesSubject : List UInt8 → Bool
  | [x, a, b] => x == 0x36 && isDigitByte a && isDigitByte b
  | _ => false

theorem isSubject_eq_ok_encodesSubject (tag : String) :
    isSubject tag = .ok (encodesSubject (bytes tag)) := by
  rw [isSubject]
  match bytes tag with
  | [] | [_] | [_, _] | _ :: _ :: _ :: _ :: _ => simp [encodesSubject, pure, Except.pure]
  | [x, a, b] =>
    have hfirst : element [x, a, b] 0 = .ok x := rfl
    have hrest : slice [x, a, b] 1 [x, a, b].length = .ok [a, b] := rfl
    rw [if_neg (by simp), hfirst, hrest, ok_bind, encodesSubject]
    by_cases hx : x = 0x36
    · simp [hx, pure, Except.pure, ok_bind]
    · simp [hx, pure, Except.pure]

theorem bytes_injective {s t : String} (h : bytes s = bytes t) : s = t :=
  String.toByteArray_inj.mp (ByteArray.ext (Array.toList_inj.mp h))

theorem bytes_ofList (l : List Char) :
    bytes (String.ofList l) = l.flatMap String.utf8EncodeChar := by
  rw [bytes, String.toByteArray_ofList, List.utf8Encode, List.toList_data_toByteArray]

theorem utf8EncodeChar_digitChar : ∀ n, n < 10 →
    String.utf8EncodeChar (Nat.digitChar n) = [UInt8.ofNat (0x30 + n)] ∧
      isDigitByte (UInt8.ofNat (0x30 + n)) := by
  decide

theorem exists_ofNat_eq {b : UInt8} (hb : isDigitByte b) :
    ∃ n, n < 10 ∧ UInt8.ofNat (0x30 + n) = b := by
  obtain ⟨hlow, hhigh⟩ : 0x30 ≤ b.toNat ∧ b.toNat ≤ 0x39 := by
    simpa [isDigitByte, UInt8.le_iff_toNat_le] using hb
  refine ⟨b.toNat - 0x30, by omega, UInt8.toNat_inj.mp ?_⟩
  rw [UInt8.toNat_ofNat']
  omega

theorem encodesSubject_bytes (tag : String) :
    encodesSubject (bytes tag) = SubjectHeading.isSubject tag := by
  have hbytes : ∀ m n, m < 10 → n < 10 →
      bytes (String.ofList ['6', Nat.digitChar m, Nat.digitChar n]) =
        [0x36, UInt8.ofNat (0x30 + m), UInt8.ofNat (0x30 + n)] := fun m n hm hn => by
    have hsix : String.utf8EncodeChar '6' = [0x36] := by decide
    rw [bytes_ofList, List.flatMap_cons, List.flatMap_cons, List.flatMap_singleton, hsix,
      (utf8EncodeChar_digitChar m hm).1, (utf8EncodeChar_digitChar n hn).1]
    rfl
  rw [Bool.eq_iff_iff]
  constructor
  · intro h
    match htag : bytes tag with
    | [] | [_] | [_, _] | _ :: _ :: _ :: _ :: _ =>
      rw [htag] at h
      cases h
    | [x, a, b] =>
      rw [htag, encodesSubject, Bool.and_eq_true, Bool.and_eq_true, beq_iff_eq] at h
      obtain ⟨⟨rfl, ha⟩, hb⟩ := h
      obtain ⟨m, hm, rfl⟩ := exists_ofNat_eq ha
      obtain ⟨n, hn, rfl⟩ := exists_ofNat_eq hb
      -- a text is determined by its bytes
      obtain rfl := bytes_injective (htag.trans (hbytes m n hm hn).symm)
      rw [SubjectHeading.isSubject, String.toList_ofList]
      exact Bool.and_eq_true_iff.mpr ⟨isDigit_digitChar hm, isDigit_digitChar hn⟩
  · intro h
    obtain ⟨m, n, hm, hn, rfl⟩ := SubjectHeading.exists_digits_of_isSubject h
    rw [hbytes m n hm hn, encodesSubject, Bool.and_eq_true, Bool.and_eq_true]
    exact ⟨⟨rfl, (utf8EncodeChar_digitChar m hm).2⟩, (utf8EncodeChar_digitChar n hn).2⟩

theorem isSubject_eq_ok (tag : String) : isSubject tag = .ok (SubjectHeading.isSubject tag) := by
  rw [isSubject_eq_ok_encodesSubject, encodesSubject_bytes]

theorem filterM_eq_ok {α : Type} {p : α → Except Fault Bool} {q : α → Bool}
    (h : ∀ a, p a = .ok (q a)) (l : List α) : l.filterM p = .ok (l.filter q) := by
  have haux : ∀ found, l.filterAuxM p found = .ok ((l.filter q).reverse ++ found) := by
    induction l with
    | nil => exact fun found => rfl
    | cons a l ih =>
      intro found
      rw [List.filterAuxM, h a, ok_bind, ih]
      cases ha : q a <;> simp [ha]
  rw [List.filterM, haux, ok_bind, List.append_nil, List.reverse_reverse]
  rfl

theorem directFieldsWhere_eq_ok (index : Index) {p : String → Except Fault Bool}
    {q : String → Bool} (h : ∀ tag, p tag = .ok (q tag)) :
    directFieldsWhere index p = .ok (index.directFieldsWhere q) := by
  rw [directFieldsWhere, filterM_eq_ok (q := fun b => q b.1) fun b => h b.1]
  rfl

end MarcHarvest.Checked
