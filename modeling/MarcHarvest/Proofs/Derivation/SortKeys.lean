import MarcHarvest.Proofs.Derivation.AuthorKey

/-!
# Sort keys of a record

Which fields of a record its sort keys are made of, and how. The author key is a name and all titles that
follow it, tag by tag, so only the order of fields within a tag counts (`apply_sortAuthor_key`). The title
key comes from one field, which gives both the text and the length of the article: the first with a title
proper, or if there is no such field at all the first with a form (`apply_sortTitle_one_field`).
-/

namespace MarcHarvest

open Text Index

/-- Another arrangement of the same fields in which those with equal tags stand as they stood before. -/
def Rearranged (l l' : List Field) : Prop :=
  ∃ placed : List (Field × Nat), placed.Perm l.zipIdx ∧ placed.map Prod.fst = l' ∧
    placed.Pairwise fun a b => a.1.tag = b.1.tag → a.2 < b.2

theorem Rearranged.filter_eq {l l' : List Field} (h : Rearranged l l') (t : String) :
    l'.filter (fun f => f.tag = t) = l.filter fun f => f.tag = t := by
  obtain ⟨placed, hperm, rfl, hpairwise⟩ := h
  -- the fields of one tag, with their places, ascend on both sides
  have hplaced : (placed.filter fun p => p.1.tag = t).Pairwise fun a b => a.2 < b.2 := by
    refine (hpairwise.filter _).imp_of_mem fun {a b} ha hb hlt => hlt ?_
    have hat : a.1.tag = t := by simpa using (List.mem_filter.mp ha).2
    have hbt : b.1.tag = t := by simpa using (List.mem_filter.mp hb).2
    rw [hat, hbt]
  have hstored : (l.zipIdx.filter fun p => p.1.tag = t).Pairwise fun a b => a.2 < b.2 :=
    (pairwise_snd_zipIdx l 0).filter _
  have heq := List.Perm.eq_of_pairwise (fun a b _ _ hab hba => absurd hba (Nat.lt_asymm hab))
    hplaced hstored (hperm.filter _)
  have hfields := congrArg (List.map Prod.fst) heq
  conv_rhs => rw [← List.zipIdx_map_fst 0 l]
  rw [List.filter_map, List.filter_map]
  exact hfields

namespace SortKey

/-! ## Articles -/

/-- What is left of a title when its article is cut: a digit counts as many characters if the title has
them, and else none go. -/
inductive CutsArticle (ind : Char) (title : List Char) : List Char → Prop
  | digit {article rest : List Char} (hlt : article.length < 10)
      (hind : ind = Nat.digitChar article.length) (htitle : title = article ++ rest) :
      CutsArticle ind title rest
  | long {d : Nat} (hlt : d < 10) (hind : ind = Nat.digitChar d) (hlong : title.length < d) :
      CutsArticle ind title title
  | none (hind : ind.isDigit = false) : CutsArticle ind title title

theorem digitValue_digitChar {n : Nat} (hn : n < 10) : digitValue (Nat.digitChar n) = n := by
  rw [digitValue, Nat.toNat_digitChar_of_lt_ten hn]
  exact Nat.add_sub_cancel_left ..

theorem cutsArticle_iff {f : Field} {title : String} {rest : List Char} :
    CutsArticle f.ind2 title.toList rest ↔ rest = (withoutArticle f title).toList := by
  constructor
  · rintro (⟨hlt, hind, htitle⟩ | ⟨hlt, hind, hlong⟩ | hind)
    · rw [withoutArticle, hind, if_pos (isDigit_digitChar hlt), digitValue_digitChar hlt, dropArticle,
        htitle, if_pos (by simp)]
      simp
    · rw [withoutArticle, hind, if_pos (isDigit_digitChar hlt), digitValue_digitChar hlt, dropArticle,
        if_neg (Nat.not_le_of_lt hlong)]
    · rw [withoutArticle, hind, if_neg Bool.false_ne_true]
  · rintro rfl
    rw [withoutArticle]
    split
    · next hdigit =>
      obtain ⟨d, hlt, hind⟩ := exists_digitChar_eq hdigit
      rw [← hind, digitValue_digitChar hlt, dropArticle]
      split
      · next hle =>
        have hlength : (title.toList.take d).length = d := List.length_take_of_le hle
        have htitle := (List.take_append_drop d title.toList).symm
        rw [String.toList_ofList]
        exact .digit (by omega) (by rw [hlength]) htitle
      · next hle => exact .long hlt rfl (Nat.lt_of_not_le hle)
    · next hdigit => exact .none (Bool.eq_false_iff.mpr hdigit)

/-! ## Keys -/

/-- A text without final punctuation and in lower case, if something is left of it. -/
def keyValues (text : String) : List String :=
  if trimPunctuation text = "" then [] else [lowercase (trimPunctuation text)]

theorem toList_ofText? (text : String) : (ofText? text).toList = keyValues text := by
  rw [ofText?, keyValues]
  by_cases h : trimPunctuation text = "" <;> simp [h]

theorem joinWords_eq (texts : List String) :
    joinWords texts = " ".intercalate (texts.filter (· ≠ "")) := by
  rw [joinWords, joinNonEmpty?, nonEmpty_eq_filter]
  cases texts.filter (· ≠ "") <;> rfl

/-! ## The author key -/

/-- The first name in the fields of a tag that is not empty. -/
def nameIn (r : RecordView) (t : String) : Option String :=
  ((r.tagged t).flatMap Field.alphabeticValues).find? (· ≠ "")

/-- The name of a record: of a person, or else of a corporate body, or else of a meeting. -/
def mainEntry (r : RecordView) : String :=
  ((nameIn r "100").or ((nameIn r "110").or (nameIn r "111"))).getD ""

/-- The title of a field: its values that are not empty, joined by spaces, without the article. -/
def IsTitleOf (f : Field) (title : String) : Prop :=
  CutsArticle f.ind2 (" ".intercalate (f.values.filter (· ≠ ""))).toList title.toList

theorem nameOf_eq_mainEntry (r : RecordView) : nameOf r = mainEntry r := by
  simp only [nameOf, mainEntry, nameIn, authorTags, not_isEmpty_eq, List.findSome?_cons,
    List.findSome?_nil]
  cases ((r.tagged "100").flatMap Field.alphabeticValues).find? (· ≠ "") with
  | some name => rfl
  | none =>
    cases ((r.tagged "110").flatMap Field.alphabeticValues).find? (· ≠ "") with
    | some name => rfl
    | none =>
      cases ((r.tagged "111").flatMap Field.alphabeticValues).find? (· ≠ "") <;> rfl

theorem isTitleOf_titleOf (f : Field) : IsTitleOf f (titleOf f) := by
  rw [IsTitleOf, cutsArticle_iff, titleOf, joinWords_eq]

theorem titlesOf_eq (r : RecordView) :
    titlesOf r = ((r.tagged "240" ++ r.tagged "245").map titleOf).filter (· ≠ "") := by
  have hall : titlesOf r = nonEmpty ((r.tagged "240" ++ r.tagged "245").map titleOf) := by
    simp only [titlesOf, authorTitleTags, List.flatMap_cons, List.flatMap_nil, List.append_nil,
      List.map_append]
    rfl
  rw [hall, nonEmpty_eq_filter]

theorem authorKey?_congr {r r' : RecordView} (h : ∀ t, r'.tagged t = r.tagged t) :
    authorKey? r' = authorKey? r := by
  unfold authorKey? authorText nameOf titlesOf
  simp only [h]

variable {i : Interest}

/-- **The author key.** To the values the derivation appends at most the key of the name and the titles
that are not empty, each after five spaces, uniform titles first. Where fields of different tags stand
among each other does not matter. -/
theorem apply_sortAuthor_key (hi : Derivation.sortAuthor.Supplied i) (r : RecordView)
    (languages : LanguageTable) (values : List String) :
    (∃ titles, List.Forall₂ IsTitleOf (r.tagged "240" ++ r.tagged "245") titles ∧
      let text := mainEntry r ++ String.join ((titles.filter (· ≠ "")).map ("     " ++ ·))
      Derivation.sortAuthor.apply (build r i) languages values =
        values ++ keyValues (String.ofList (trimBlanks text.toList))) ∧
    ∀ fields, Rearranged r.fields fields →
      Derivation.sortAuthor.apply (build { r with fields } i) languages values =
        Derivation.sortAuthor.apply (build r i) languages values := by
  have happly : ∀ r, Derivation.sortAuthor.apply (build r i) languages values =
      values ++ (authorKey? r).toList := by
    intro r
    rw [Derivation.apply, author?_build hi.1]
  refine ⟨⟨(r.tagged "240" ++ r.tagged "245").map titleOf, ?_, ?_⟩, fun fields hfields => ?_⟩
  · rw [List.forall₂_map_right_iff, List.forall₂_same]
    exact fun f _ => isTitleOf_titleOf f
  · rw [happly, authorKey?, toList_ofText?, authorText, nameOf_eq_mainEntry, titlesOf_eq]
  · have hkey : authorKey? { r with fields } = authorKey? r :=
      authorKey?_congr fun t => hfields.filter_eq t
    rw [happly, happly, hkey]

/-- Two main entries, one without a name, and titles with an article, with one that is too long and with
nothing else. -/
def entriesAndTitles : List Field := [
  ⟨"245", '1', '4', [⟨'a', "The Test"⟩]⟩, ⟨"110", '2', ' ', [⟨'a', "Body"⟩]⟩,
  ⟨"245", '1', '3', [⟨'a', "The"⟩]⟩, ⟨"100", '1', ' ', [⟨'a', ""⟩, ⟨'b', "Author,"⟩]⟩,
  ⟨"240", '1', '9', [⟨'a', "Short"⟩]⟩]

/-- The same fields, those of a tag in their order. -/
def entriesFirst : List Field := [
  ⟨"100", '1', ' ', [⟨'a', ""⟩, ⟨'b', "Author,"⟩]⟩, ⟨"110", '2', ' ', [⟨'a', "Body"⟩]⟩,
  ⟨"240", '1', '9', [⟨'a', "Short"⟩]⟩, ⟨"245", '1', '4', [⟨'a', "The Test"⟩]⟩,
  ⟨"245", '1', '3', [⟨'a', "The"⟩]⟩]

theorem rearranged_entriesFirst : Rearranged entriesAndTitles entriesFirst :=
  ⟨entriesFirst.zip [3, 1, 4, 0, 2], by decide, rfl, by decide⟩

theorem apply_sortAuthor_key_entriesFirst :
    Derivation.sortAuthor.Supplied (Derivation.sortAuthor.addInterest .least) ∧
    Rearranged entriesAndTitles entriesFirst ∧
    Derivation.sortAuthor.apply (build ⟨[], entriesFirst⟩ (Derivation.sortAuthor.addInterest .least))
      .standard ["kept"] = ["kept", "author,     short     test"] := by
  have hkey := apply_sortAuthor_key supplied_sortAuthor ⟨[], entriesAndTitles⟩ .standard ["kept"]
  refine ⟨supplied_sortAuthor, rearranged_entriesFirst,
    (hkey.2 _ rearranged_entriesFirst).trans ?_⟩
  rw [Derivation.apply, author?_build supplied_sortAuthor.1]
  decide

/-! ## The title key -/

/-- Title and subtitle of a field, each the join of all its values, as far as they are not empty. -/
def titleText (f : Field) : String :=
  " ".intercalate ([" ".intercalate (f.valuesOf 'a'), " ".intercalate (f.valuesOf 'b')].filter (· ≠ ""))

/-- The form that stands for a title. -/
def formText (f : Field) : String := " ".intercalate (f.valuesOf 'k')

/-- Which of the title fields gives the key, and from what text: the first with a title proper, and the
first with a form only if none has a title proper. -/
inductive TitleSource (titles : List Field) : Field → String → Prop
  | proper {before after : List Field} {f : Field} (htitles : titles = before ++ f :: after)
      (hbefore : ∀ g ∈ before, titleText g = "") (hf : titleText f ≠ "") :
      TitleSource titles f (titleText f)
  | form {before after : List Field} {f : Field} (htitles : titles = before ++ f :: after)
      (hproper : ∀ g ∈ titles, titleText g = "") (hbefore : ∀ g ∈ before, formText g = "")
      (hf : formText f ≠ "") : TitleSource titles f (formText f)

theorem joined?_eq (f : Field) (code : Char) :
    (f.joined? (String.singleton code)).getD "" = " ".intercalate (f.valuesOf code) := by
  have hvalues : ((f.subfields.filter fun s => (String.singleton code).toList.contains s.code).map
      Subfield.value) = f.valuesOf code := by
    refine congrArg _ (List.filter_congr fun s _ => ?_)
    by_cases hs : s.code = code <;> simp [hs]
  rw [Field.joined?, hvalues]
  cases f.valuesOf code <;> rfl

theorem titleProper_eq (f : Field) : titleProper f = titleText f := by
  rw [titleProper, joinWords_eq, titleText, ← joined?_eq, ← joined?_eq]
  rfl

theorem formTitle_eq (f : Field) : formTitle f = formText f := joined?_eq f 'k'

/-- The field and the text that give the key. -/
def titleSource? (titles : List Field) : Option (Field × String) :=
  ((titles.find? fun f => titleText f ≠ "").map fun f => (f, titleText f)).or
    ((titles.find? fun f => formText f ≠ "").map fun f => (f, formText f))

theorem find?_ne_empty_eq_none_iff {text : Field → String} {titles : List Field} :
    (titles.find? fun f => text f ≠ "") = none ↔ ∀ g ∈ titles, text g = "" := by
  simp

theorem find?_ne_empty_eq_some_iff {text : Field → String} {titles : List Field} {f : Field} :
    (titles.find? fun f => text f ≠ "") = some f ↔
      ∃ before after, titles = before ++ f :: after ∧ (∀ g ∈ before, text g = "") ∧ text f ≠ "" := by
  rw [List.find?_eq_some_iff_append]
  constructor
  · rintro ⟨hf, before, after, htitles, hbefore⟩
    exact ⟨before, after, htitles, fun g hg => by simpa using hbefore g hg, by simpa using hf⟩
  · rintro ⟨before, after, htitles, hbefore, hf⟩
    exact ⟨by simpa using hf, before, after, htitles, fun g hg => by simp [hbefore g hg]⟩

theorem titleSource_iff {titles : List Field} {f : Field} {text : String} :
    TitleSource titles f text ↔ titleSource? titles = some (f, text) := by
  rw [titleSource?]
  constructor
  · rintro (⟨htitles, hbefore, hf⟩ | ⟨htitles, hproper, hbefore, hf⟩)
    · rw [find?_ne_empty_eq_some_iff.mpr ⟨_, _, htitles, hbefore, hf⟩]
      rfl
    · rw [find?_ne_empty_eq_none_iff.mpr hproper,
        find?_ne_empty_eq_some_iff.mpr ⟨_, _, htitles, hbefore, hf⟩]
      rfl
  · intro h
    cases hproper : titles.find? fun f => titleText f ≠ "" with
    | some g =>
      rw [hproper] at h
      obtain ⟨rfl, rfl⟩ := Prod.mk.inj (Option.some.inj h)
      obtain ⟨before, after, htitles, hbefore, hf⟩ := find?_ne_empty_eq_some_iff.mp hproper
      exact .proper htitles hbefore hf
    | none =>
      rw [hproper] at h
      obtain ⟨g, hform, hg⟩ := Option.map_eq_some_iff.mp h
      obtain ⟨rfl, rfl⟩ := Prod.mk.inj hg
      obtain ⟨before, after, htitles, hbefore, hf⟩ := find?_ne_empty_eq_some_iff.mp hform
      exact .form htitles (find?_ne_empty_eq_none_iff.mp hproper) hbefore hf

variable {i : Interest}

theorem title?_build (hi : i.contains titleTag) (r : RecordView) :
    title? (build r i) =
      (titleSource? (r.tagged "245")).bind fun s => ofText? (withoutArticle s.1 s.2) := by
  have hfields : (build r i).fieldsOf titleTag = r.tagged "245" :=
    fieldsOf_build_tagged (by decide) hi
  have hproper : titleProper = titleText := funext titleProper_eq
  have hform : formTitle = formText := funext formTitle_eq
  unfold title?
  simp only [firstTitle?_directFields, hfields, hproper, hform, not_isEmpty_eq, titleSource?]
  cases (r.tagged "245").find? fun f => titleText f ≠ "" with
  | some f => rfl
  | none => cases (r.tagged "245").find? fun f => formText f ≠ "" <;> rfl

/-- **The title key comes from one field.** To the values the derivation appends what the text of the source
gives without the article that the same field counts, or nothing if no field is a source. Records with
the same source get the same, whatever else they hold. -/
theorem apply_sortTitle_one_field (hi : Derivation.sortTitle.Supplied i) (r : RecordView)
    (languages : LanguageTable) (values : List String) :
    (∀ f text, TitleSource (r.tagged "245") f text →
      (∃ rest, CutsArticle f.ind2 text.toList rest ∧
        Derivation.sortTitle.apply (build r i) languages values =
          values ++ keyValues (String.ofList rest)) ∧
      ∀ r' : RecordView, TitleSource (r'.tagged "245") f text →
        Derivation.sortTitle.apply (build r' i) languages values =
          Derivation.sortTitle.apply (build r i) languages values) ∧
    ((∀ f text, ¬ TitleSource (r.tagged "245") f text) →
      Derivation.sortTitle.apply (build r i) languages values = values) := by
  have htag : i.contains titleTag := hi.1 _ (List.mem_singleton_self _)
  have happly : ∀ (r : RecordView) (f : Field) (text : String),
      TitleSource (r.tagged "245") f text →
        Derivation.sortTitle.apply (build r i) languages values =
          values ++ keyValues (withoutArticle f text) := by
    intro r f text hsource
    rw [Derivation.apply, title?_build htag, titleSource_iff.mp hsource, Option.bind_some,
      toList_ofText?]
  refine ⟨fun f text hsource => ⟨⟨(withoutArticle f text).toList, cutsArticle_iff.mpr rfl, ?_⟩,
    fun r' hsource' => ?_⟩, fun hnone => ?_⟩
  · rw [happly r f text hsource, String.ofList_toList]
  · rw [happly r f text hsource, happly r' f text hsource']
  · have hsource : titleSource? (r.tagged "245") = none := by
      refine Option.eq_none_iff_forall_ne_some.mpr fun s hs => ?_
      exact hnone s.1 s.2 (titleSource_iff.mpr hs)
    rw [Derivation.apply, title?_build htag, hsource, Option.bind_none, Option.toList_none,
      List.append_nil]

/-- A field with a form before one with a title proper. -/
def formAndTitle : List Field := [
  ⟨"245", '0', '2', [⟨'k', "Papers"⟩]⟩,
  ⟨"245", '1', '4', [⟨'b', "rest"⟩, ⟨'a', "The Test /"⟩, ⟨'a', "again"⟩]⟩]

theorem apply_sortTitle_one_field_formAndTitle :
    let i := Derivation.sortTitle.addInterest .least
    let f : Field := ⟨"245", '1', '4', [⟨'b', "rest"⟩, ⟨'a', "The Test /"⟩, ⟨'a', "again"⟩]⟩
    Derivation.sortTitle.Supplied i ∧ TitleSource formAndTitle f "The Test / again rest" ∧
    Derivation.sortTitle.apply (build ⟨[], formAndTitle⟩ i) .standard ["kept"] =
      ["kept", "test / again rest"] := by
  intro i f
  have hi : Derivation.sortTitle.Supplied i := Derivation.supplied_addInterest _ _
  have hsource : TitleSource formAndTitle f "The Test / again rest" := titleSource_iff.mpr (by decide)
  have hkey := apply_sortTitle_one_field hi ⟨[], formAndTitle⟩ .standard ["kept"]
  obtain ⟨rest, hrest, happly⟩ := (hkey.1 f _ hsource).1
  rw [cutsArticle_iff.mp hrest] at happly
  exact ⟨hi, hsource, happly.trans (by decide)⟩

end SortKey

end MarcHarvest
