import MarcHarvest.Derivation.Language
import MarcHarvest.Proofs.Derivation.Distinct
import MarcHarvest.Proofs.Text.Pieces

/-!
# Names of languages

A value is a list of items between commas, and an item a row of codes of three characters; what is left
of an item after its last whole code does not count. So a code is three characters without a comma
behind a whole number of codes of the same item (`IsCodeIn`). The names of the codes come out in order,
each at its first place. They depend on the row of codes alone, so values may be taken apart at their
commas and items between two codes (`naming_namesIn`).
-/

namespace MarcHarvest.LanguageTable

open Text

/-! ## Items and codes -/

/-- The items of a value: its pieces between commas. -/
def itemsOf (value : String) : List String := (value.toList.splitOn ',').map String.ofList

/-- The chunks of three characters of an item, from its start. -/
def chunksOf (item : String) : List String :=
  (List.range (item.length / 3)).map fun k => String.ofList ((item.toList.drop (3 * k)).take 3)

/-- Whether a code stands in a value: three characters without a comma, and of the text before them a
multiple of three characters back to the last comma. -/
structure IsCodeIn (code value : String) : Prop where
  length_eq : code.length = 3
  no_comma : ',' ∉ code.toList
  stands : ∃ before after, value.toList = before ++ (code.toList ++ after) ∧
    3 ∣ (before.reverse.takeWhile (· != ',')).length

variable {code item value : String} {items : List String}

theorem map_toList_itemsOf (value : String) :
    (itemsOf value).map String.toList = value.toList.splitOn ',' := by
  have hid : String.toList ∘ String.ofList = id := funext fun _ => String.toList_ofList
  rw [itemsOf, List.map_map, hid, List.map_id]

theorem itemsOf_eq_iff :
    itemsOf value = items ↔ value.toList.splitOn ',' = items.map String.toList := by
  rw [← map_toList_itemsOf]
  exact (List.map_injective_iff.mpr fun s t => String.toList_inj.mp).eq_iff.symm

theorem itemsOf_intercalate (hne : items ≠ []) (h : ∀ item ∈ items, ',' ∉ item.toList) :
    itemsOf (",".intercalate items) = items := by
  rw [itemsOf_eq_iff, String.toList_intercalate]
  refine List.splitOn_intercalate ',' ?_ (mt List.map_eq_nil_iff.mp hne)
  exact List.forall_mem_map.mpr h

theorem not_mem_of_mem_itemsOf (h : item ∈ itemsOf value) : ',' ∉ item.toList := by
  have hitem := List.mem_map_of_mem (f := String.toList) h
  rw [map_toList_itemsOf] at hitem
  exact not_mem_of_mem_splitOn hitem

theorem map_triples (item : String) : (triples item.toList).map String.ofList = chunksOf item := by
  rw [triples_eq, List.map_map, String.length_toList]
  rfl

theorem codesIn_eq (value : String) : codesIn value = (itemsOf value).flatMap chunksOf := by
  rw [codesIn, splitOn_eq, ← map_toList_itemsOf, List.flatMap_map]
  exact List.flatMap_congr fun item _ => map_triples item

theorem mem_codesIn_iff : code ∈ codesIn value ↔ IsCodeIn code value := by
  have hcodes : code ∈ codesIn value ↔
      ∃ piece ∈ value.toList.splitOn ',', code.toList ∈ triples piece := by
    rw [codesIn, splitOn_eq, List.mem_flatMap]
    refine exists_congr fun piece => and_congr_right fun _ => ?_
    rw [List.mem_map]
    constructor
    · rintro ⟨l, hl, rfl⟩
      rwa [String.toList_ofList]
    · exact fun hl => ⟨code.toList, hl, String.ofList_toList⟩
  rw [hcodes]
  constructor
  · rintro ⟨piece, hpiece, hchunk⟩
    obtain ⟨hcomma, start, stop, hvalue, hstart, -⟩ := mem_splitOn_iff.mp hpiece
    obtain ⟨hlength, before, after, rfl, hdvd⟩ := mem_triples_iff.mp hchunk
    rw [List.mem_append, List.mem_append, not_or, not_or] at hcomma
    obtain ⟨hbefore, hcode, -⟩ := hcomma
    refine ⟨by rwa [← String.length_toList], hcode, start ++ before, after ++ stop, ?_, ?_⟩
    · rw [hvalue, List.append_assoc, List.append_assoc, List.append_assoc]
    · have hpass : ∀ c ∈ before.reverse, (c != ',') = true := fun c hc =>
        bne_iff_ne.mpr fun heq => hbefore (heq ▸ List.mem_reverse.mp hc)
      rwa [List.reverse_append, takeWhile_append hpass hstart, List.length_reverse]
  · rintro ⟨hlength, hcode, before, after, hvalue, hdvd⟩
    -- the item is what goes from the code back and on to the next commas
    obtain ⟨start, back, rfl, hstart, hback, hdvd⟩ : ∃ start back, before = start ++ back ∧
        start.reverse.head?.any (· != ',') = false ∧ ',' ∉ back ∧ 3 ∣ back.length := by
      refine ⟨(before.reverse.dropWhile (· != ',')).reverse,
        (before.reverse.takeWhile (· != ',')).reverse, ?_, ?_, ?_, ?_⟩
      · rw [← List.reverse_append, List.takeWhile_append_dropWhile, List.reverse_reverse]
      · rw [List.reverse_reverse]
        exact any_head?_dropWhile _ _
      · intro hmem
        simpa using List.mem_takeWhile_imp (List.mem_reverse.mp hmem)
      · rwa [List.length_reverse]
    refine ⟨back ++ (code.toList ++ after.takeWhile (· != ',')), ?_, ?_⟩
    · refine mem_splitOn_iff.mpr ⟨?_, start, after.dropWhile (· != ','), ?_, hstart,
        any_head?_dropWhile _ after⟩
      · rw [List.mem_append, List.mem_append, not_or, not_or]
        refine ⟨hback, hcode, fun hmem => ?_⟩
        simpa using List.mem_takeWhile_imp hmem
      · rw [hvalue]
        simp only [List.append_assoc, List.takeWhile_append_dropWhile]
    · refine mem_triples_iff.mpr ⟨?_, back, after.takeWhile (· != ','), rfl, hdvd⟩
      rwa [String.length_toList]

/-! ## The same codes written differently -/

theorem flatMap_codesIn_itemsOf (value : String) :
    (itemsOf value).flatMap codesIn = codesIn value := by
  rw [codesIn_eq]
  refine List.flatMap_congr fun item hitem => ?_
  have hone : itemsOf item = [item] := by
    rw [itemsOf, List.splitOn_eq_singleton (not_mem_of_mem_itemsOf hitem), List.map_singleton,
      String.ofList_toList]
  rw [codesIn_eq, hone, List.flatMap_singleton]

/-- The first of the items into which a cut behind `k` codes divides an item, and the second. -/
def cutAt (k : Nat) (item : String) : List String :=
  [String.ofList (item.toList.take (3 * k)), String.ofList (item.toList.drop (3 * k))]

theorem flatMap_chunksOf_cutAt (k : Nat) (item : String) :
    (cutAt k item).flatMap chunksOf = chunksOf item := by
  by_cases hk : 3 * k ≤ item.toList.length
  · have hdvd : 3 ∣ (item.toList.take (3 * k)).length := by
      rw [List.length_take_of_le hk]
      exact Nat.dvd_mul_right 3 k
    have hcut := triples_append hdvd (item.toList.drop (3 * k))
    rw [List.take_append_drop] at hcut
    rw [cutAt, List.flatMap_cons, List.flatMap_singleton, ← map_triples, ← map_triples,
      ← map_triples, String.toList_ofList, String.toList_ofList, ← List.map_append, ← hcut]
  · have hk := Nat.le_of_not_le hk
    rw [cutAt, List.take_of_length_le hk, List.drop_of_length_le hk, String.ofList_toList]
    exact List.append_nil _

theorem not_mem_of_mem_cutAt {k : Nat} {piece : String} (h : ',' ∉ item.toList)
    (hpiece : piece ∈ cutAt k item) : ',' ∉ piece.toList := by
  rcases List.mem_pair.mp hpiece with rfl | rfl
  · rw [String.toList_ofList]
    exact fun hmem => h (List.mem_of_mem_take hmem)
  · rw [String.toList_ofList]
    exact fun hmem => h (List.mem_of_mem_drop hmem)

theorem codesIn_intercalate_cutAt {before after : List String}
    (h : itemsOf value = before ++ item :: after) (k : Nat) :
    codesIn (",".intercalate (before ++ cutAt k item ++ after)) = codesIn value := by
  have hcomma : ∀ piece ∈ before ++ item :: after, ',' ∉ piece.toList := fun piece hpiece =>
    not_mem_of_mem_itemsOf (h ▸ hpiece)
  rw [List.forall_mem_append, List.forall_mem_cons] at hcomma
  obtain ⟨hbefore, hitem, hafter⟩ := hcomma
  have hitems : itemsOf (",".intercalate (before ++ cutAt k item ++ after)) =
      before ++ cutAt k item ++ after := by
    refine itemsOf_intercalate ?_ ?_
    · simp [cutAt]
    · rw [List.forall_mem_append, List.forall_mem_append]
      exact ⟨⟨hbefore, fun piece => not_mem_of_mem_cutAt hitem⟩, hafter⟩
  rw [codesIn_eq, codesIn_eq, hitems, h, List.append_assoc, List.flatMap_append,
    List.flatMap_append, flatMap_chunksOf_cutAt, List.flatMap_append, List.flatMap_cons]

/-! ## Names -/

variable (t : LanguageTable)

theorem namesIn_eq_eraseDups (values : List String) :
    t.namesIn values = ((values.flatMap codesIn).map t.nameOrCode).eraseDups :=
  addAllDistinct_nil _

theorem mem_namesIn_iff {values : List String} {name : String} :
    name ∈ t.namesIn values ↔
      ∃ value ∈ values, ∃ code, IsCodeIn code value ∧ t.nameOrCode code = name := by
  rw [namesIn_eq_eraseDups, List.mem_eraseDups, List.mem_map]
  constructor
  · rintro ⟨code, hcode, hname⟩
    obtain ⟨value, hvalue, hcode⟩ := List.mem_flatMap.mp hcode
    exact ⟨value, hvalue, code, mem_codesIn_iff.mp hcode, hname⟩
  · rintro ⟨value, hvalue, code, hcode, hname⟩
    exact ⟨code, List.mem_flatMap.mpr ⟨value, hvalue, mem_codesIn_iff.mpr hcode⟩, hname⟩

/-- Values with the same codes have the same names. -/
theorem namesIn_replace {value : String} {values : List String}
    (h : values.flatMap codesIn = codesIn value) (before after : List String) :
    t.namesIn (before ++ value :: after) = t.namesIn (before ++ values ++ after) := by
  rw [namesIn_eq_eraseDups, namesIn_eq_eraseDups, List.append_assoc, List.flatMap_append,
    List.flatMap_cons, List.flatMap_append, List.flatMap_append, h]

/-- What a function that names the codes in values does. The name of a code is the one in the table, or
else the code. -/
structure Naming (namesOf : List String → List String) : Prop where
  /-- All chunks of all items of all values are named in order, and a name stays at its first
  place. -/
  eq_eraseDups : ∀ values, namesOf values =
    ((values.flatMap fun value => (itemsOf value).flatMap chunksOf).map
      fun code => (t.name? code).getD code).eraseDups
  nodup : ∀ values, (namesOf values).Nodup
  /-- Every name is that of a code within one item of one value. -/
  mem_iff : ∀ values name, name ∈ namesOf values ↔
    ∃ value ∈ values, ∃ code, IsCodeIn code value ∧ (t.name? code).getD code = name
  append : ∀ xs ys, namesOf (xs ++ ys) = (namesOf xs ++ namesOf ys).eraseDups
  /-- The items of a value may be values of their own. -/
  separate : ∀ before value after,
    namesOf (before ++ value :: after) = namesOf (before ++ itemsOf value ++ after)
  /-- An item may be two items, cut behind some of its codes. -/
  cut : ∀ before value after items item items' k, itemsOf value = items ++ item :: items' →
    namesOf (before ++ value :: after) =
      namesOf (before ++ ",".intercalate (items ++ cutAt k item ++ items') :: after)

/-- **Names are those of the chunks between commas.** With every table and for all values, the chunks of
the items are named in order and each name is kept once, so the result only depends on the codes and
where one comes first. -/
theorem naming_namesIn : t.Naming t.namesIn where
  eq_eraseDups values := by
    rw [namesIn_eq_eraseDups, funext codesIn_eq]
    rfl
  nodup values := nodup_addAllDistinct_nil _
  mem_iff values name := mem_namesIn_iff t
  append xs ys := by
    simp only [namesIn_eq_eraseDups]
    rw [List.flatMap_append, List.map_append, eraseDups_append_eraseDups]
  separate before value after := namesIn_replace t (flatMap_codesIn_itemsOf value) before after
  cut before value after items item items' k h := by
    have hcodes := codesIn_intercalate_cutAt h k
    rw [← List.flatMap_singleton codesIn] at hcodes
    rw [namesIn_replace t hcodes, List.append_assoc]
    rfl

/-- Items of more and of less than one code, a code that no comma may divide, and one name for two
codes. -/
example :
    let t := ofPairs [("eng", "English"), ("ang", "English"), ("fre", "French")]
    t.namesIn ["angfreen,gqqq", "eng,fr"] = ["English", "French", "gqq"] := by decide

end MarcHarvest.LanguageTable
