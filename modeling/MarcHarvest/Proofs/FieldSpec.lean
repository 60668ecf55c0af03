import MarcHarvest.FieldSpec
import MarcHarvest.Proofs.Component.Grammar
import MarcHarvest.Proofs.Safety.Access
import MarcHarvest.Proofs.Text.Decimal
import MarcHarvest.Proofs.Text.Pieces

/-!
# Field specs by their parts

A spec is compiled part by part: it is refused with the first fault of a part, and otherwise the
expansions of the parts follow each other (`compile_by_parts`). An expansion is determined by the tags that
a tag stands for (`StandsFor`), in ascending order. Digits take the places of the wildcards, so a
compiled tag has none left; and every part has a tag of three characters, so the expansion finds the
characters that it looks at (`Checked.expand`).
-/

namespace MarcHarvest

/-! ## Expansions -/

namespace Component

/-- Whether a tag is one of those that a tag stands for. A wildcard in the second place makes the third
one a wildcard too. -/
inductive StandsFor : List Char → List Char → Prop
  | hundred {a c d e : Char} (hd : d.isDigit) (he : e.isDigit) : StandsFor [a, 'X', c] [a, d, e]
  | ten {a b d : Char} (hb : b ≠ 'X') (hd : d.isDigit) : StandsFor [a, b, 'X'] [a, b, d]
  | one {a b c : Char} (hb : b ≠ 'X') (hc : c ≠ 'X') : StandsFor [a, b, c] [a, b, c]

/-- The number of tags that a tag stands for. -/
def multiplicity (tag : List Char) : Nat :=
  if tag[1]? = some 'X' then 100 else if tag[2]? = some 'X' then 10 else 1

/-- Whether components are those that a component stands for: they differ from it in their tags
alone. -/
structure IsExpansion (c : Component) (l : List Component) : Prop where
  eq_of_mem : ∀ d ∈ l, d = { c with tag := d.tag }
  mem_tags : ∀ t, t ∈ l.map tag ↔ StandsFor c.tag.toList t.toList
  ascending : (l.map tag).Pairwise (· < ·)
  length_eq : l.length = multiplicity c.tag.toList

theorem isExpansion_map {c : Component} {tags : List String}
    (hmem : ∀ t, t ∈ tags ↔ StandsFor c.tag.toList t.toList) (hascending : tags.Pairwise (· < ·))
    (hlength : tags.length = multiplicity c.tag.toList) :
    c.IsExpansion (tags.map fun t => { c with tag := t }) := by
  have htags : (tags.map fun t => { c with tag := t }).map tag = tags := by
    rw [List.map_map]
    exact List.map_id tags
  refine ⟨?_, ?_, ?_, ?_⟩
  · intro d hd
    obtain ⟨t, -, rfl⟩ := List.mem_map.mp hd
    rfl
  · rwa [htags]
  · rwa [htags]
  · rwa [List.length_map]

section StandsFor

variable {a b d : Char} {t : List Char}

theorem standsFor_second_iff :
    StandsFor [a, 'X', d] t ↔ ∃ x y, x.isDigit ∧ y.isDigit ∧ t = [a, x, y] := by
  constructor
  · intro h
    cases h with
    | hundred hx hy => exact ⟨_, _, hx, hy, rfl⟩
    | ten hb => exact absurd rfl hb
    | one hb => exact absurd rfl hb
  · rintro ⟨x, y, hx, hy, rfl⟩
    exact .hundred hx hy

theorem standsFor_third_iff (hb : b ≠ 'X') :
    StandsFor [a, b, 'X'] t ↔ ∃ x, x.isDigit ∧ t = [a, b, x] := by
  constructor
  · intro h
    cases h with
    | hundred => exact absurd rfl hb
    | ten _ hx => exact ⟨_, hx, rfl⟩
    | one _ hc => exact absurd rfl hc
  · rintro ⟨x, hx, rfl⟩
    exact .ten hb hx

theorem standsFor_neither_iff (hb : b ≠ 'X') (hd : d ≠ 'X') :
    StandsFor [a, b, d] t ↔ t = [a, b, d] := by
  constructor
  · intro h
    cases h with
    | hundred => exact absurd rfl hb
    | ten => exact absurd rfl hd
    | one => rfl
  · rintro rfl
    exact .one hb hd

theorem StandsFor.exists_chars {tag : List Char} (h : StandsFor tag t) :
    ∃ a b d, t = [a, b, d] ∧ b ≠ 'X' ∧ d ≠ 'X' := by
  have hdigit : ∀ {x : Char}, x.isDigit → x ≠ 'X' := by
    rintro x hx rfl
    exact absurd hx (by decide)
  cases h with
  | hundred hd he => exact ⟨_, _, _, rfl, hdigit hd, hdigit he⟩
  | ten hb hd => exact ⟨_, _, _, rfl, hb, hdigit hd⟩
  | one hb hc => exact ⟨_, _, _, rfl, hb, hc⟩

end StandsFor

def hundredTags (a : Char) : List String :=
  (List.range 100).map fun n => String.ofList [a, Nat.digitChar (n / 10), Nat.digitChar (n % 10)]

def tenTags (a b : Char) : List String :=
  (List.range 10).map fun n => String.ofList [a, b, Nat.digitChar n]

theorem pairwise_map_range {f : Nat → String} {k : Nat}
    (h : ∀ m n, m < n → n < k → (f m).toList < (f n).toList) :
    ((List.range k).map f).Pairwise (· < ·) := by
  rw [List.pairwise_map]
  refine List.pairwise_lt_range.imp_of_mem fun {m n} _ hn hmn => ?_
  exact h m n hmn (List.mem_range.mp hn)

theorem pairwise_hundredTags (a : Char) : (hundredTags a).Pairwise (· < ·) := by
  refine pairwise_map_range fun m n hmn hn => ?_
  rw [String.toList_ofList, String.toList_ofList, List.cons_lt_cons_iff, List.cons_lt_cons_iff,
    List.cons_lt_cons_iff]
  refine Or.inr ⟨rfl, ?_⟩
  by_cases htens : m / 10 = n / 10
  · exact Or.inr ⟨congrArg Nat.digitChar htens, Or.inl (digitChar_lt (by omega) (by omega))⟩
  · exact Or.inl (digitChar_lt (by omega) (by omega))

theorem pairwise_tenTags (a b : Char) : (tenTags a b).Pairwise (· < ·) := by
  refine pairwise_map_range fun m n hmn hn => ?_
  rw [String.toList_ofList, String.toList_ofList, List.cons_lt_cons_iff, List.cons_lt_cons_iff,
    List.cons_lt_cons_iff]
  exact Or.inr ⟨rfl, Or.inr ⟨rfl, Or.inl (digitChar_lt hmn hn)⟩⟩

theorem mem_hundredTags {a : Char} {t : String} :
    t ∈ hundredTags a ↔ ∃ d e, d.isDigit ∧ e.isDigit ∧ t.toList = [a, d, e] := by
  rw [hundredTags, List.mem_map]
  constructor
  · rintro ⟨n, hn, rfl⟩
    have hn := List.mem_range.mp hn
    exact ⟨_, _, isDigit_digitChar (by omega), isDigit_digitChar (by omega), String.toList_ofList⟩
  · rintro ⟨d, e, hd, he, ht⟩
    obtain ⟨m, hm, rfl⟩ := exists_digitChar_eq hd
    obtain ⟨n, hn, rfl⟩ := exists_digitChar_eq he
    refine ⟨10 * m + n, List.mem_range.mpr (by omega), ?_⟩
    have htens : (10 * m + n) / 10 = m := by omega
    have hones : (10 * m + n) % 10 = n := by omega
    rw [htens, hones, ← ht, String.ofList_toList]

theorem mem_tenTags {a b : Char} {t : String} :
    t ∈ tenTags a b ↔ ∃ d, d.isDigit ∧ t.toList = [a, b, d] := by
  rw [tenTags, List.mem_map]
  constructor
  · rintro ⟨n, hn, rfl⟩
    exact ⟨_, isDigit_digitChar (List.mem_range.mp hn), String.toList_ofList⟩
  · rintro ⟨d, hd, ht⟩
    obtain ⟨n, hn, rfl⟩ := exists_digitChar_eq hd
    exact ⟨n, List.mem_range.mpr hn, by rw [← ht, String.ofList_toList]⟩

variable {c : Component} {a b d : Char}

theorem expand_of_second (h : c.tag.toList = [a, 'X', d]) :
    c.expand = (hundredTags a).map fun t => { c with tag := t } := by
  rw [expand, h, hundredTags, List.map_map]
  rfl

theorem expand_of_third (h : c.tag.toList = [a, b, 'X']) (hb : b ≠ 'X') :
    c.expand = (tenTags a b).map fun t => { c with tag := t } := by
  rw [expand, h, tenTags, List.map_map]
  split
  · next heq =>
    cases heq
    exact absurd rfl hb
  · next heq =>
    cases heq
    rfl
  · next _ hthird => exact absurd rfl (hthird a b)

theorem expand_of_neither (h : c.tag.toList = [a, b, d]) (hb : b ≠ 'X') (hd : d ≠ 'X') :
    c.expand = [c] := by
  rw [expand, h]
  split
  · next heq =>
    cases heq
    exact absurd rfl hb
  · next heq =>
    cases heq
    exact absurd rfl hd
  · rfl

theorem isExpansion_expand (h : c.tag.toList = [a, b, d]) : c.IsExpansion c.expand := by
  by_cases hb : b = 'X'
  · subst hb
    rw [expand_of_second h]
    refine isExpansion_map (fun t => ?_) (pairwise_hundredTags a) ?_
    · rw [mem_hundredTags, h, standsFor_second_iff]
    · rw [h, hundredTags, List.length_map, List.length_range]
      rfl
  · by_cases hd : d = 'X'
    · subst hd
      rw [expand_of_third h hb]
      refine isExpansion_map (fun t => ?_) (pairwise_tenTags a b) ?_
      · rw [mem_tenTags, h, standsFor_third_iff hb]
      · rw [h, tenTags, List.length_map, List.length_range]
        simp [multiplicity, hb]
    · rw [expand_of_neither h hb hd]
      change c.IsExpansion ([c.tag].map fun t => { c with tag := t })
      refine isExpansion_map (fun t => ?_) (List.pairwise_singleton ..) ?_
      · rw [List.mem_singleton, h, standsFor_neither_iff hb hd, ← h, String.toList_inj]
      · rw [h]
        simp [multiplicity, hb, hd]

theorem exists_tag_of_parse {s : String} (h : parse s = .ok c) :
    ∃ a b d, c.tag.toList = [a, b, d] := by
  have hwrites := read_sound (parse_eq_ok_iff_read.mp h)
  generalize expandLetters s.toList = l at hwrites
  cases hwrites with
  | mk => exact ⟨_, _, _, String.toList_ofList⟩

end Component

/-! ## Expansion with checked access -/

namespace Checked

/-- The components that a component stands for, by the characters at places 0, 1 and 2 of its tag. -/
def expand (c : Component) : Except Fault (List Component) := do
  let chars := c.tag.toList
  if (← element chars 1) = 'X' then
    let first ← element chars 0
    return (Component.hundredTags first).map fun t => { c with tag := t }
  else if (← element chars 2) = 'X' then
    let first ← element chars 0
    let second ← element chars 1
    return (Component.tenTags first second).map fun t => { c with tag := t }
  else return [c]

theorem expand_eq_ok {c : Component} {a b d : Char} (h : c.tag.toList = [a, b, d]) :
    expand c = .ok c.expand := by
  have hfirst : element c.tag.toList 0 = .ok a := by rw [h]; rfl
  have hsecond : element c.tag.toList 1 = .ok b := by rw [h]; rfl
  have hthird : element c.tag.toList 2 = .ok d := by rw [h]; rfl
  rw [expand]
  simp only [hfirst, hsecond, hthird, ok_bind]
  by_cases hb : b = 'X'
  · subst hb
    rw [if_pos rfl, Component.expand_of_second h]
    rfl
  · rw [if_neg hb]
    by_cases hd : d = 'X'
    · subst hd
      rw [if_pos rfl, Component.expand_of_third h hb]
      rfl
    · rw [if_neg hd, Component.expand_of_neither h hb hd]
      rfl

end Checked

/-! ## Specs -/

namespace FieldSpec

/-- The parts of a spec: what is between its colons, unless it is empty. -/
def partsOf (spec : String) : List String :=
  ((spec.toList.splitOn ':').filter (· ≠ [])).map String.ofList

theorem parts_eq (spec : String) : parts spec = partsOf spec := by
  rw [parts, partsOf, Text.splitOn_eq]
  congr 1
  refine List.filter_congr fun l _ => ?_
  cases l <;> rfl

theorem partsOf_append (a b : String) : partsOf (a ++ ":" ++ b) = partsOf a ++ partsOf b := by
  have hcolon : (a ++ ":" ++ b).toList = a.toList ++ ':' :: b.toList := by
    rw [String.toList_append, String.toList_append, List.append_assoc]
    rfl
  rw [partsOf, hcolon, List.splitOn_append_cons_self, List.filter_append, List.map_append]
  rfl

theorem compile_eq (spec : String) :
    compile spec = ((partsOf spec).mapM Component.parse).map (·.flatMap Component.expand) := by
  rw [compile, parts_eq]
  cases (partsOf spec).mapM Component.parse <;> rfl

/-- Whether components are the expansion of what a part is read as, with checked access too. -/
def IsGroup (part : String) (group : List Component) : Prop :=
  ∃ c, Component.parse part = .ok c ∧ c.IsExpansion group ∧ Checked.expand c = .ok group

/-- What compiling gives for the parts of a spec. -/
structure CompilesTo (parts : List String) (result : Except SpecError (List Component)) : Prop where
  /-- The parts decide on success, and the first fault of a part is that of the spec. -/
  decides : Decides result (∀ p ∈ parts, ∃ c, Component.parse p = .ok c)
    (FirstFault (fun p => ∃ c, Component.parse p = .ok c) (fun p e => Component.parse p = .error e)
      parts)
  /-- The expansions of the parts follow each other. -/
  expansions : ∀ cs, result = .ok cs →
    ∃ groups, cs = groups.flatten ∧ List.Forall₂ IsGroup parts groups
  tags : ∀ cs, result = .ok cs → ∀ c ∈ cs, ∃ a b d, c.tag.toList = [a, b, d] ∧ b ≠ 'X' ∧ d ≠ 'X'

theorem exists_groups {spec : String} {cs : List Component} (h : compile spec = .ok cs) :
    ∃ groups, cs = groups.flatten ∧ List.Forall₂ IsGroup (partsOf spec) groups := by
  rw [compile_eq] at h
  obtain ⟨parsed, hparsed, rfl⟩ := exists_of_map_eq_ok h
  refine ⟨parsed.map Component.expand, List.flatMap_def, ?_⟩
  rw [List.forall₂_map_right_iff]
  refine (forall₂_of_mapM_eq_ok hparsed).imp fun p c hc => ?_
  obtain ⟨a, b, d, htag⟩ := Component.exists_tag_of_parse hc
  exact ⟨c, hc, Component.isExpansion_expand htag, Checked.expand_eq_ok htag⟩

theorem compile_append (a b : String) :
    compile (a ++ ":" ++ b) = do
      let cs ← compile a
      let ds ← compile b
      return cs ++ ds := by
  simp only [compile_eq, partsOf_append, List.mapM_append]
  cases (partsOf a).mapM Component.parse with
  | error e => rfl
  | ok cs =>
    cases (partsOf b).mapM Component.parse with
    | error e => rfl
    | ok ds => exact congrArg Except.ok List.flatMap_append

theorem exists_tag_of_compile {spec : String} {cs : List Component} (h : compile spec = .ok cs) :
    ∀ c ∈ cs, ∃ a b d, c.tag.toList = [a, b, d] ∧ b ≠ 'X' ∧ d ≠ 'X' := by
  rw [compile_eq] at h
  obtain ⟨parsed, hparsed, rfl⟩ := exists_of_map_eq_ok h
  intro c hc
  obtain ⟨k, hk, hc⟩ := List.mem_flatMap.mp hc
  obtain ⟨p, -, hp⟩ := exists_of_mem_mapM hparsed hk
  obtain ⟨x, y, z, htag⟩ := Component.exists_tag_of_parse hp
  have hexpansion := Component.isExpansion_expand htag
  exact ((hexpansion.mem_tags c.tag).mp (List.mem_map_of_mem hc)).exists_chars

/-- **Specs compile part by part.** A spec compiles just if all its parts can be read, to the expansions
of the parts in order, and to the first fault of a part otherwise. No compiled tag has a wildcard, and
of two specs with a colon between them the second one follows the first. -/
theorem compile_by_parts :
    (∀ spec, CompilesTo (partsOf spec) (compile spec)) ∧
    ∀ a b, compile (a ++ ":" ++ b) = do
      let cs ← compile a
      let ds ← compile b
      return cs ++ ds := by
  refine ⟨fun spec => ?_, compile_append⟩
  constructor
  · have hpart : ∀ p, Decides (Component.parse p) (∃ c, Component.parse p = .ok c)
        (fun e => Component.parse p = .error e) := fun p => ⟨Iff.rfl, fun _ => Iff.rfl⟩
    rw [compile_eq]
    exact (Decides.mapM hpart (partsOf spec)).map _
  · exact fun cs h => exists_groups h
  · exact fun cs h => exists_tag_of_compile h

/-- A wildcard in the second place leaves the third no meaning of its own, and one in the first place
has none. -/
example :
    (compile "XX8::9aX[2]").toOption.map (·.map Component.tag) =
      some (Component.hundredTags 'X' ++ Component.tenTags '9' 'a') := by rfl

end FieldSpec

end MarcHarvest
