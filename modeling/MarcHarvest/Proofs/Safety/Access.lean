import MarcHarvest.Proofs.Except

/-!
# Checked access

A machine stops a run at an element or a slice that is not there, at a cut inside a character and at
a number that does not fit its type. The operations of this file are those of such a machine: each
checks what the machine needs and reports a `Fault` if it does not hold. The lemma beside it says
when it goes well and what it gives.

Sizes and offsets are words of 64 bits, years are integers of 32 bits. Offsets in texts count the
bytes of their encoding in UTF-8. Positions in a list that is stored already are not checked: such a
list is no longer than its memory.
-/

namespace MarcHarvest

/-- What stops a run. -/
inductive Fault where
  /-- No element at an offset, or a slice that reaches beyond the end or ends before it begins. -/
  | outOfRange
  /-- A cut between the bytes of one character. -/
  | insideCharacter
  /-- A number that its type cannot hold. -/
  | overflow
  deriving Repr, DecidableEq

namespace Checked

/-! ## Runs that give a value -/

section Gives

variable {α β : Type} {P : Prop}

/-- A run that gives a value without a fault, and under the condition `P` this value. -/
def Gives (P : Prop) (x : Except Fault α) (a : α) : Prop := ∃ b, x = .ok b ∧ (P → b = a)

namespace Gives

theorem of_eq {x : Except Fault α} {a : α} (h : x = .ok a) : Gives P x a := ⟨a, h, fun _ => rfl⟩

theorem eq {x : Except Fault α} {a : α} (h : Gives P x a) (hP : P) : x = .ok a := by
  obtain ⟨b, hb, ha⟩ := h
  rw [hb, ha hP]

theorem imp {Q : Prop} {x : Except Fault α} {a : α} (h : Gives P x a) (hPQ : Q → P) :
    Gives Q x a := by
  obtain ⟨b, hb, ha⟩ := h
  exact ⟨b, hb, fun hQ => ha (hPQ hQ)⟩

theorem map {x : Except Fault α} {a : α} (h : Gives P x a) (f : α → β) :
    Gives P (x.map f) (f a) := by
  obtain ⟨b, rfl, ha⟩ := h
  exact ⟨f b, rfl, fun hP => congrArg f (ha hP)⟩

theorem bind {x : Except Fault α} {a : α} (h : Gives P x a) {f : α → Except Fault β} {g : α → β}
    (hf : ∀ a, f a = .ok (g a)) : Gives P (x >>= f) (g a) := by
  obtain ⟨b, rfl, ha⟩ := h
  exact ⟨g b, hf b, fun hP => congrArg g (ha hP)⟩

theorem mapM {f : α → Except Fault β} {g : α → β} {l : List α}
    (h : ∀ a ∈ l, Gives P (f a) (g a)) : Gives P (l.mapM f) (l.map g) := by
  induction l with
  | nil => exact .of_eq rfl
  | cons a l ih =>
    obtain ⟨b, hb, ha⟩ := h a List.mem_cons_self
    obtain ⟨bs, hbs, hl⟩ := ih fun a' ha' => h a' (List.mem_cons_of_mem a ha')
    refine ⟨b :: bs, ?_, fun hP => by rw [ha hP, hl hP, List.map_cons]⟩
    rw [List.mapM_cons, hb, ok_bind, hbs]
    rfl

end Gives

theorem mapM_eq_ok {f : α → Except Fault β} {g : α → β} (h : ∀ a, f a = .ok (g a)) (l : List α) :
    l.mapM f = .ok (l.map g) :=
  (Gives.mapM (P := True) fun a _ => .of_eq (h a)).eq trivial

end Gives

/-! ## Lists -/

section Lists

variable {α : Type} {l : List α} {start stop : Nat}

def element (l : List α) (k : Nat) : Except Fault α :=
  match l[k]? with
  | some a => .ok a
  | none => .error .outOfRange

def slice (l : List α) (start stop : Nat) : Except Fault (List α) :=
  if start ≤ stop ∧ stop ≤ l.length then .ok ((l.drop start).take (stop - start))
  else .error .outOfRange

theorem slice_of_le (h : start ≤ stop) (h' : stop ≤ l.length) :
    slice l start stop = .ok ((l.drop start).take (stop - start)) :=
  if_pos ⟨h, h'⟩

example : slice "871002s198".toList 7 11 = .error .outOfRange := by decide

end Lists

/-! ## Texts -/

/-- The characters of a list, each with the byte offset at which it begins; the first begins at
`offset`. -/
def charIndices (offset : Nat) : List Char → List (Nat × Char)
  | [] => []
  | c :: rest => (offset, c) :: charIndices (offset + c.utf8Size) rest

/-- The byte offset at which character number `k` of a text begins. -/
def charOffset? (s : String) (k : Nat) : Option Nat := ((charIndices 0 s.toList)[k]?).map Prod.fst

/-- The parts of a text before and after a byte offset. -/
def cut (s : String) (offset : Nat) : Except Fault (String × String) :=
  if h : (String.Pos.Raw.mk offset).IsValid s then
    .ok ((s.sliceTo ⟨⟨offset⟩, h⟩).copy, (s.sliceFrom ⟨⟨offset⟩, h⟩).copy)
  else if s.utf8ByteSize < offset then .error .outOfRange
  else .error .insideCharacter

theorem utf8ByteSize_ofList_cons (c : Char) (l : List Char) :
    (String.ofList (c :: l)).utf8ByteSize = c.utf8Size + (String.ofList l).utf8ByteSize := by
  rw [String.ofList_cons, String.utf8ByteSize_append, String.utf8ByteSize_singleton]

theorem getElem?_charIndices (offset : Nat) (l : List Char) (k : Nat) :
    (charIndices offset l)[k]? =
      (l[k]?).map fun c => (offset + (String.ofList (l.take k)).utf8ByteSize, c) := by
  induction l generalizing offset k with
  | nil => rfl
  | cons c l ih =>
    cases k with
    | zero => rfl
    | succ k =>
      rw [charIndices, List.getElem?_cons_succ, ih, List.getElem?_cons_succ, List.take_succ_cons,
        utf8ByteSize_ofList_cons, Nat.add_assoc]

/-- A character begins after the bytes of those before it. -/
theorem charOffset?_eq (s : String) (k : Nat) :
    charOffset? s k = if k < s.toList.length then
      some (String.ofList (s.toList.take k)).utf8ByteSize else none := by
  rw [charOffset?, getElem?_charIndices, Option.map_map]
  split
  · next h =>
    rw [List.getElem?_eq_getElem h]
    simp
  · next h =>
    rw [List.getElem?_eq_none (Nat.le_of_not_lt h)]
    rfl

/-- A text is cut between two texts of which it consists, and nowhere else. -/
theorem cut_eq_ok_iff {s t u : String} {offset : Nat} :
    cut s offset = .ok (t, u) ↔ s = t ++ u ∧ offset = t.utf8ByteSize := by
  rw [cut]
  constructor
  · intro h
    split at h
    · next hvalid =>
      have hsplits := String.Pos.splits (⟨⟨offset⟩, hvalid⟩ : s.Pos)
      obtain ⟨rfl, rfl⟩ := Prod.mk.inj (Except.ok.inj h)
      exact ⟨hsplits.eq_append, congrArg String.Pos.Raw.byteIdx hsplits.offset_eq_rawEndPos⟩
    · split at h <;> cases h
  · rintro ⟨rfl, rfl⟩
    have hvalid : (String.Pos.Raw.mk t.utf8ByteSize).IsValid (t ++ u) :=
      String.Pos.Raw.isValid_iff_exists_append.mpr ⟨t, u, rfl, rfl⟩
    have hsplits : String.Pos.Splits (s := t ++ u) ⟨⟨t.utf8ByteSize⟩, hvalid⟩ t u := ⟨rfl, rfl⟩
    have hparts := hsplits.eq (String.Pos.splits _)
    rw [dif_pos hvalid, ← hparts.1, ← hparts.2]

theorem cut_take (s : String) (k : Nat) :
    cut s (String.ofList (s.toList.take k)).utf8ByteSize =
      .ok (String.ofList (s.toList.take k), String.ofList (s.toList.drop k)) := by
  refine cut_eq_ok_iff.mpr ⟨?_, rfl⟩
  rw [← String.ofList_append, List.take_append_drop, String.ofList_toList]

/-! ## Numbers -/

def increment (n : Nat) : Except Fault Nat :=
  if n + 1 < UInt64.size then .ok (n + 1) else .error .overflow

/-- A sum of words, at most the largest word. -/
def addSaturating (m n : Nat) : Nat := min (m + n) (UInt64.size - 1)

/-- Whether an integer has 32 bits. -/
def IsInt32 (n : Int) : Prop := -0x80000000 ≤ n ∧ n < 0x80000000

instance : DecidablePred IsInt32 := fun n =>
  inferInstanceAs (Decidable (-0x80000000 ≤ n ∧ n < 0x80000000))

def subtract (m n : Int) : Except Fault Int :=
  if IsInt32 (m - n) then .ok (m - n) else .error .overflow

theorem increment_of_lt {n : Nat} (h : n + 1 < UInt64.size) : increment n = .ok (n + 1) := if_pos h

/-- A sum with one goes beyond what is below the other summand, also if it stops at the largest
word. -/
theorem lt_addSaturating {k m : Nat} (hk : k < m) (hm : m < UInt64.size) :
    k < addSaturating m 1 := by
  rw [addSaturating]
  generalize UInt64.size = size at hm
  omega

theorem min_addSaturating {k : Nat} (hk : k < UInt64.size) (m : Nat) :
    min k (addSaturating m 1) = min k (m + 1) := by
  rw [addSaturating]
  generalize UInt64.size = size at hk
  omega

theorem subtract_of_isInt32 {m n : Int} (h : IsInt32 (m - n)) : subtract m n = .ok (m - n) :=
  if_pos h

end Checked

end MarcHarvest
