import MarcHarvest.Extractor.Basic
import MarcHarvest.Proofs.OrderedMap
import MarcHarvest.Proofs.StableSort

/-!
# Selections of several codes

A list of codes groups the subfields of a field: the codes in the order in which they first appear
in the list, and for each code its subfields as they are stored. The extractor gets there by a
stable sort, which lists buckets (`mergeSort_eq_groups`). Any key will do that ascends along the
distinct codes: the place of a code in the list, or the byte at which its search in the text of the
list ends. So repeated codes in the list and codes of several bytes change nothing
(`select_several`).
-/

namespace MarcHarvest

/-! ## Places of codes -/

/-- The byte at which the first occurrence of a character begins; all bytes if there is none. -/
def byteOffset (codes : List Char) (c : Char) : Nat :=
  (String.ofList (codes.take (codes.idxOf c))).utf8ByteSize

theorem utf8ByteSize_ofList_lt {l m : List Char} (h : l <+: m) (hlt : l.length < m.length) :
    (String.ofList l).utf8ByteSize < (String.ofList m).utf8ByteSize := by
  obtain ⟨rest, rfl⟩ := h
  cases rest with
  | nil => simp at hlt
  | cons c rest =>
    have hsize := Char.utf8Size_pos c
    rw [String.ofList_append, String.utf8ByteSize_append, String.ofList_cons,
      String.utf8ByteSize_append, String.utf8ByteSize_singleton]
    omega

theorem byteOffset_lt {codes : List Char} {c d : Char} (h : codes.idxOf c < codes.idxOf d) :
    byteOffset codes c < byteOffset codes d := by
  have hd : codes.idxOf d ≤ codes.length := List.idxOf_le_length
  refine utf8ByteSize_ofList_lt (List.take_prefix_take_left (Nat.le_of_lt h)) ?_
  rw [List.length_take, List.length_take]
  omega

/-! ## Groups -/

/-- The subfields with one of the codes, code by code. -/
def groups (codes : List Char) (l : List Subfield) : List Subfield :=
  codes.eraseDups.flatMap fun c => l.filter fun s => s.code = c

variable {codes : List Char} {l : List Subfield}

/-- A stable sort by a key that ascends along the distinct codes groups by code. -/
theorem mergeSort_eq_groups {place : Char → Nat}
    (hplace : codes.eraseDups.Pairwise fun c d => place c < place d) :
    ((l.filter fun s => codes.contains s.code).mergeSort
      fun a b => place a.code ≤ place b.code) = groups codes l := by
  have hkeys : (codes.eraseDups.map place).Pairwise fun m n => decide (m ≤ n) ∧ m ≠ n := by
    rw [List.pairwise_map]
    refine hplace.imp fun {c d} hlt => ⟨?_, Nat.ne_of_lt hlt⟩
    exact decide_eq_true (Nat.le_of_lt hlt)
  have hmem : ∀ s ∈ l.filter (fun s => codes.contains s.code),
      place s.code ∈ codes.eraseDups.map place := by
    intro s hs
    have hcode : s.code ∈ codes := by simpa using (List.mem_filter.mp hs).2
    exact List.mem_map_of_mem (List.mem_eraseDups.mpr hcode)
  -- distinct codes have distinct keys, so the bucket of a key is that of its code
  have hinj : ∀ c ∈ codes.eraseDups, ∀ d ∈ codes.eraseDups, place c = place d → c = d := by
    intro c hc d hd heq
    have hnodup : (codes.eraseDups.map place).Nodup := hkeys.imp fun h => h.2
    exact List.inj_on_of_nodup_map hnodup hc hd heq
  rw [StableSort.mergeSort_eq_flatMap (fun s : Subfield => place s.code)
    StableSort.isOrder_nat hkeys hmem,
    List.flatMap_map, groups]
  refine List.flatMap_congr fun c hc => ?_
  rw [List.filter_filter]
  refine List.filter_congr fun s _ => ?_
  by_cases hs : s.code = c
  · have hcode : c ∈ codes := List.mem_eraseDups.mp hc
    simp [hs, hcode]
  · by_cases hcode : s.code ∈ codes
    · have hne : place s.code ≠ place c :=
        fun heq => hs (hinj _ (List.mem_eraseDups.mpr hcode) _ hc heq)
      simp [hs, hne]
    · simp [hs, hcode]

/-! ## Selections -/

namespace Extractor

theorem selectJoined_grouped (text : String) (f : Field) :
    selectJoined false text f = groups text.toList f.subfields :=
  mergeSort_eq_groups (OrderedMap.pairwise_idxOf_eraseDups text.toList)

theorem selectJoined_bytes (text : String) (f : Field) :
    selectJoined false text f = (f.subfields.filter fun s => text.toList.contains s.code).mergeSort
      fun a b => byteOffset text.toList a.code ≤ byteOffset text.toList b.code := by
  have hplace := (OrderedMap.pairwise_idxOf_eraseDups text.toList).imp byteOffset_lt
  rw [selectJoined_grouped, mergeSort_eq_groups hplace]

theorem perm_selectJoined (keepsOrder : Bool) (text : String) (f : Field) :
    (selectJoined keepsOrder text f).Perm
      (f.subfields.filter fun s => text.toList.contains s.code) := by
  cases keepsOrder with
  | true => exact List.Perm.refl _
  | false => exact List.mergeSort_perm _ _

/-- The texts that are not empty with a delimiter between them, as one value; no value if all are
empty. -/
def oneValue (delimiter : String) (texts : List String) : List String :=
  if ∀ t ∈ texts, t = "" then [] else [delimiter.intercalate (texts.filter (· ≠ ""))]

theorem toList_joinNonEmpty? (delimiter : String) (texts : List String) :
    (Text.joinNonEmpty? delimiter texts).toList = oneValue delimiter texts := by
  have hnil : (∀ t ∈ texts, t = "") ↔ texts.filter (· ≠ "") = [] := by
    simp [List.filter_eq_nil_iff]
  unfold Text.joinNonEmpty? oneValue
  rw [Text.nonEmpty_eq_filter]
  simp only [hnil]
  cases texts.filter (· ≠ "") <;> simp

theorem oneValue_ne_nil_iff (delimiter : String) (texts : List String) :
    oneValue delimiter texts ≠ [] ↔ ∃ t ∈ texts, t ≠ "" := by
  unfold oneValue
  split
  · next hempty => simpa using hempty
  · next hsome => simpa using hsome

theorem length_oneValue_le (delimiter : String) (texts : List String) :
    (oneValue delimiter texts).length ≤ 1 := by
  unfold oneValue
  split <;> simp

/-- What an extractor takes from a field for a list of codes: at most one value, of grouped or of
stored subfields. -/
structure SelectsSeveral (e : Extractor) (codes : List Char) (f : Field) (values : List String) :
    Prop where
  /-- The distinct codes as they first appear, for each of them its subfields as they are stored. -/
  grouped : e.keepsOrder = false →
    values = oneValue e.delimiter ((groups codes f.subfields).map Subfield.value)
  /-- All subfields whose code is in the list, as they are stored. -/
  stored : e.keepsOrder = true →
    values = oneValue e.delimiter ((f.subfields.filter (·.code ∈ codes)).map Subfield.value)
  /-- Either way the same subfields count, each once. -/
  perm : (groups codes f.subfields).Perm (f.subfields.filter (·.code ∈ codes))
  /-- Groups are what a stable sort by bytes in the list of codes makes of the stored subfields. -/
  bytes : groups codes f.subfields = (f.subfields.filter (·.code ∈ codes)).mergeSort
    fun a b => byteOffset codes a.code ≤ byteOffset codes b.code
  length_le_one : values.length ≤ 1
  /-- A value comes out just if some subfield that counts is not empty. -/
  ne_nil_iff : values ≠ [] ↔ ∃ s ∈ f.subfields, s.code ∈ codes ∧ s.value ≠ ""

/-- **Several codes group.** Two codes or more, repeated or not, select from every field the
subfields of these codes, joined in groups by code or as they are stored. -/
theorem select_several (e : Extractor) (first second : Char) (rest : List Char) (f : Field) :
    e.SelectsSeveral (first :: second :: rest) f
      (e.select (Selection.ofCodes (first :: second :: rest)) f) := by
  generalize hcodes : first :: second :: rest = codes
  have hselect : e.select (Selection.ofCodes codes) f = oneValue e.delimiter
      ((selectJoined e.keepsOrder (String.ofList codes) f).map Subfield.value) := by
    rw [← toList_joinNonEmpty?, ← hcodes]
    rfl
  have hperm := perm_selectJoined e.keepsOrder (String.ofList codes) f
  have hgroups := selectJoined_grouped (String.ofList codes) f
  have hbytes := selectJoined_bytes (String.ofList codes) f
  have hsame := perm_selectJoined false (String.ofList codes) f
  rw [hgroups] at hbytes hsame
  simp only [String.toList_ofList, List.contains_eq_mem] at hgroups hperm hbytes hsame
  rw [hselect]
  refine ⟨fun horder => ?_, fun horder => ?_, hsame, hbytes, length_oneValue_le .., ?_⟩
  · rw [horder, hgroups]
  · rw [horder, selectJoined, if_pos rfl]
    simp only [String.toList_ofList, List.contains_eq_mem]
  · rw [oneValue_ne_nil_iff]
    constructor
    · rintro ⟨t, ht, hne⟩
      obtain ⟨s, hs, rfl⟩ := List.mem_map.mp ht
      obtain ⟨hs, hcode⟩ := List.mem_filter.mp (hperm.mem_iff.mp hs)
      exact ⟨s, hs, of_decide_eq_true hcode, hne⟩
    · rintro ⟨s, hs, hcode, hne⟩
      have hmem := hperm.mem_iff.mpr (List.mem_filter.mpr ⟨hs, decide_eq_true hcode⟩)
      exact ⟨s.value, List.mem_map_of_mem hmem, hne⟩

end Extractor

end MarcHarvest
