import MarcHarvest.Proofs.Index.Contents
import MarcHarvest.Proofs.Safety.Extraction

/-!
# Ranges of a payload

A range of a control field takes the characters of its positions, first to last, and leaves out the
positions behind the end of the payload (`take_drop_eq_flatMap`). So it yields the join of what its
positions yield alone, in one value, provided that it has more than one position and the first of them
is there (`controlValues_by_position`). A run on machine words yields the same, up to the largest offset.
-/

namespace MarcHarvest

theorem take_drop_eq_flatMap (l : List Char) (first count : Nat) :
    (l.drop first).take count = (List.range' first count).flatMap fun n => l[n]?.toList := by
  induction count generalizing first with
  | zero => rfl
  | succ count ih =>
    rw [List.range'_succ, List.flatMap_cons, ← ih]
    by_cases hfirst : first < l.length
    · rw [List.drop_eq_getElem_cons hfirst, List.take_succ_cons, List.getElem?_eq_getElem hfirst]
      rfl
    · have hend := Nat.le_of_not_lt hfirst
      rw [List.drop_of_length_le hend, List.drop_of_length_le (Nat.le_succ_of_le hend),
        List.getElem?_eq_none hend, List.take_nil, List.take_nil]
      rfl

namespace Extractor

variable {c : Component} {index : Index} {entry : PlacedControl}

/-- What a component yields with an offset in the place of its own. -/
def yields (c : Component) (index : Index) (offset : Offset) : List Found :=
  controlValues { c with offset := some offset } index

theorem yields_eq (h : index.controlField? c.tag = some entry) (offset : Offset) :
    yields c index offset =
      (offset.select? entry.value.toList).toList.map fun l => (entry.origin, String.ofList l) := by
  rw [yields, controlValues, h]

theorem yields_position (h : index.controlField? c.tag = some entry) (n : Nat) :
    yields c index (.position n) =
      (entry.value.toList[n]?).toList.map fun d => (entry.origin, String.singleton d) := by
  rw [yields_eq h, Offset.select?]
  cases entry.value.toList[n]? <;> rfl

theorem join_positions (h : index.controlField? c.tag = some entry) (first count : Nat) :
    String.join ((List.range' first count).flatMap fun n =>
        (yields c index (.position n)).map Prod.snd) =
      String.ofList ((entry.value.toList.drop first).take count) := by
  rw [← String.toList_inj, String.toList_join, String.toList_ofList, take_drop_eq_flatMap,
    List.flatMap_assoc]
  refine List.flatMap_congr fun n _ => ?_
  rw [yields_position h]
  cases entry.value.toList[n]? with
  | none => rfl
  | some d => simp

theorem gives_yields (h : index.controlField? c.tag = some entry) {offset : Offset}
    (hoffset : offset.IsWord) :
    Checked.Gives (entry.value.toList.length < UInt64.size)
      (Checked.controlValues { c with offset := some offset } index) (yields c index offset) := by
  rw [Checked.controlValues, yields_eq h, h]
  exact (Checked.gives_select? hoffset entry.value.toList).map _

/-- **A range is the join of its positions.** A position yields its character if the payload has it. A
range yields one value, the join of what its positions yield, if it ascends and its first position
yields something, and otherwise nothing. Checked runs on words give the same. -/
theorem controlValues_by_position (h : index.controlField? c.tag = some entry) :
    (∀ n, yields c index (.position n) =
      if hn : n < entry.value.toList.length then
        [(entry.origin, String.singleton entry.value.toList[n])] else []) ∧
    (∀ first last, yields c index (.range first last) =
      if first < last ∧ first < entry.value.toList.length then
        [(entry.origin, String.join ((List.range' first (last + 1 - first)).flatMap fun n =>
          (yields c index (.position n)).map Prod.snd))] else []) ∧
    ∀ offset : Offset, offset.IsWord →
      Checked.Gives (entry.value.toList.length < UInt64.size)
        (Checked.controlValues { c with offset := some offset } index)
        (yields c index offset) := by
  refine ⟨fun n => ?_, fun first last => ?_, fun offset hoffset => gives_yields h hoffset⟩
  · rw [yields_position h]
    split
    · next hn =>
      rw [List.getElem?_eq_getElem hn]
      rfl
    · next hn =>
      rw [List.getElem?_eq_none (Nat.le_of_not_lt hn)]
      rfl
  · rw [join_positions h, yields_eq h, Offset.select?]
    split <;> rfl

/-- Three characters of different sizes, up to the largest offset. -/
theorem controlValues_by_position_widePayloads :
    let index := Index.build Checked.widePayloads Interest.least.requireControl
    let c : Component := ⟨"001", .any, .any, .all, none⟩
    let largest := 18446744073709551615
    index.controlField? c.tag = some ⟨.control 0, "é字𝒳"⟩ ∧
    yields c index (.position 2) = [(.control 0, "𝒳")] ∧
    yields c index (.range 1 largest) = [(.control 0, "字𝒳")] ∧
    yields c index (.range 2 largest) = [(.control 0, "𝒳")] ∧
    yields c index (.range 3 largest) = [] ∧
    Checked.controlValues { c with offset := some (.range 1 largest) } index =
      .ok [(.control 0, "字𝒳")] := by
  intro index c largest
  have hentry : index.controlField? c.tag = some ⟨.control 0, "é字𝒳"⟩ := by
    rw [Index.controlField?_build (Interest.control_requireControl _)]
    decide
  obtain ⟨hposition, hrange, hchecked⟩ := controlValues_by_position hentry
  have hyields : yields c index (.range 1 largest) = [(.control 0, "字𝒳")] := by
    rw [hrange, join_positions hentry]
    decide
  refine ⟨hentry, ?_, hyields, ?_, ?_, ?_⟩
  · rw [hposition]
    decide
  · rw [hrange, join_positions hentry]
    decide
  · rw [hrange]
    decide
  · rw [← hyields]
    exact (hchecked (.range 1 largest) ⟨by decide, by decide⟩).eq (by decide)

end Extractor

end MarcHarvest
