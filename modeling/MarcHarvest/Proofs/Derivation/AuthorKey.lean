import Mathlib.Data.List.Infix
import MarcHarvest.Proofs.Derivation.Reading

/-!
# Linkage values and the author key

The author key is made of two halves that choose subfields by different rules: the name takes those
with an alphabetic code, the titles take all of them. So the `$6` that links a field to its form in
an alternate script never counts in a main entry, but in a title it counts like any other subfield,
and if it comes first it is what the article is cut from (`apply_sortAuthor_linkage`).

The argument runs over the text of a record before it is trimmed (`authorText`): taking the linkage
values out of some fields keeps the name in any case, and it keeps a title whose linkage values are
all empty.
-/

namespace MarcHarvest

open Text

def linkageCode : Char := '6'

def Field.withoutLinkage (f : Field) : Field :=
  { f with subfields := f.subfields.filter fun s => s.code ≠ linkageCode }

/-- A record without the linkage values of the fields with certain tags. -/
def RecordView.withoutLinkage (r : RecordView) (tags : List String) : RecordView :=
  { r with fields := r.fields.map fun f => if f.tag ∈ tags then f.withoutLinkage else f }

def RecordView.tagged (r : RecordView) (t : String) : List Field :=
  r.fields.filter fun f => f.tag = t

theorem RecordView.tagged_withoutLinkage (r : RecordView) (tags : List String) (t : String) :
    (r.withoutLinkage tags).tagged t =
      (r.tagged t).map fun f => if f.tag ∈ tags then f.withoutLinkage else f := by
  unfold RecordView.tagged RecordView.withoutLinkage
  rw [List.filter_map]
  congr 1
  refine List.filter_congr fun f _ => ?_
  dsimp only [Function.comp_apply]
  split <;> rfl

namespace SortKey

open Index

/-! ## The text of a record -/

/-- The first name that is not empty, by tags. -/
def nameOf (r : RecordView) : String :=
  (authorTags.findSome? fun t =>
    ((r.tagged t).flatMap Field.alphabeticValues).find? fun v => !v.isEmpty).getD ""

/-- All subfields of a title field as one text, without the article that the field counts. -/
def titleOf (f : Field) : String := withoutArticle f (joinWords f.values)

/-- The titles that are not empty, uniform titles first. -/
def titlesOf (r : RecordView) : List String :=
  (authorTitleTags.flatMap fun t => (r.tagged t).map titleOf).filter fun t => !t.isEmpty

/-- The name, and each title after five spaces. -/
def authorText (r : RecordView) : String :=
  nameOf r ++ String.join ((titlesOf r).map fun t => "     " ++ t)

/-- The key that a record has. -/
def authorKey? (r : RecordView) : Option String :=
  ofText? (String.ofList (trimBlanks (authorText r).toList))

variable {r : RecordView} {i : Interest}

theorem fieldsOf_build_tagged {t : String} (ht : t ∈ authorTags ++ authorTitleTags)
    (hi : i.contains t) : (build r i).fieldsOf t = r.tagged t := by
  rw [fieldsOf_build hi, RecordView.tagged]
  refine List.filter_congr fun f _ => isDirect_of_ne ?_ f
  rintro rfl
  revert ht
  decide

theorem author?_build (hi : ∀ t ∈ authorTags ++ authorTitleTags, i.contains t) :
    author? (build r i) = authorKey? r := by
  have hname : authorName (build r i) = nameOf r := by
    rw [authorName_eq, nameOf]
    congr 1
    refine findSome?_congr fun t ht => ?_
    have hmem := List.mem_append_left authorTitleTags ht
    rw [fieldsOf_build_tagged hmem (hi t hmem)]
  have htitles : authorTitles (build r i) = titlesOf r := by
    rw [authorTitles_eq, titlesOf]
    congr 1
    refine List.flatMap_congr fun t ht => ?_
    have hmem := List.mem_append_right authorTags ht
    rw [fieldsOf_build_tagged hmem (hi t hmem)]
    rfl
  rw [author?, authorKey?, authorText, hname, htitles]

/-! ## Without linkage values -/

theorem alphabeticValues_withoutLinkage (f : Field) :
    f.withoutLinkage.alphabeticValues = f.alphabeticValues := by
  have hcode : Unicode.isAlphabetic .v17 linkageCode = false := by decide
  unfold Field.alphabeticValues Field.withoutLinkage
  rw [List.filter_filter]
  congr 1
  refine List.filter_congr fun s _ => ?_
  by_cases hs : s.code = linkageCode
  · simp [hs, hcode]
  · simp [hs]

theorem nameOf_withoutLinkage (r : RecordView) (tags : List String) :
    nameOf (r.withoutLinkage tags) = nameOf r := by
  have hvalues : ∀ f : Field, (if f.tag ∈ tags then f.withoutLinkage else f).alphabeticValues =
      f.alphabeticValues := by
    intro f
    split
    · exact alphabeticValues_withoutLinkage f
    · rfl
  unfold nameOf
  simp only [RecordView.tagged_withoutLinkage, List.flatMap_map, hvalues]

/-- Whether all linkage values of a field are empty. -/
def Unlinked (f : Field) : Prop := ∀ s ∈ f.subfields, s.code = linkageCode → s.value = ""

theorem titleOf_withoutLinkage {f : Field} (hf : Unlinked f) :
    titleOf f.withoutLinkage = titleOf f := by
  have hvalues : nonEmpty f.withoutLinkage.values = nonEmpty f.values := by
    unfold nonEmpty Field.values Field.withoutLinkage
    rw [List.filter_map, List.filter_map, List.filter_filter]
    congr 1
    refine List.filter_congr fun s hs => ?_
    by_cases hcode : s.code = linkageCode
    · simp [hcode, hf s hs hcode]
    · simp [hcode]
  have hjoin : joinWords f.withoutLinkage.values = joinWords f.values := by
    rw [joinWords, joinWords, joinNonEmpty?, joinNonEmpty?, hvalues]
  rw [titleOf, titleOf, hjoin]
  rfl

theorem authorText_withoutLinkage {r : RecordView} {tags : List String}
    (h : ∀ f ∈ r.fields, f.tag ∈ authorTitleTags → f.tag ∈ tags → Unlinked f) :
    authorText (r.withoutLinkage tags) = authorText r := by
  have htitles : titlesOf (r.withoutLinkage tags) = titlesOf r := by
    unfold titlesOf
    congr 1
    refine List.flatMap_congr fun t ht => ?_
    rw [RecordView.tagged_withoutLinkage, List.map_map]
    refine List.map_congr_left fun f hf => ?_
    obtain ⟨hmem, htag⟩ := List.mem_filter.mp hf
    have htag : f.tag = t := by simpa using htag
    dsimp only [Function.comp_apply]
    split
    · next htags => exact titleOf_withoutLinkage (h f hmem (htag ▸ ht) htags)
    · rfl
  rw [authorText, authorText, nameOf_withoutLinkage, htitles]

/-! ## A linkage value in front of a title -/

/-- The number of characters that a field counts as its article. -/
def articleLength (f : Field) : Nat := if f.ind2.isDigit then digitValue f.ind2 else 0

theorem prefix_joinWords (v : String) (vs : List String) :
    v.toList <+: (joinWords (v :: vs)).toList := by
  by_cases hv : v = ""
  · subst hv
    exact List.nil_prefix
  · have hcons : nonEmpty (v :: vs) = v :: nonEmpty vs := by simp [nonEmpty, hv]
    rw [joinWords, joinNonEmpty?, hcons, Option.getD_some]
    cases nonEmpty vs with
    | nil => simp
    | cons w ws =>
      rw [String.intercalate_cons_cons, String.append_assoc, String.toList_append]
      exact List.prefix_append _ _

/-- What is left of the first characters of a title when the article is cut. -/
theorem drop_infix_withoutArticle {f : Field} {l : List Char} {title : String}
    (h : l <+: title.toList) : l.drop (articleLength f) <:+: (withoutArticle f title).toList := by
  have hwhole : l.drop (articleLength f) <:+: title.toList :=
    (List.drop_suffix _ _).isInfix.trans h.isInfix
  by_cases hdigit : f.ind2.isDigit
  · rw [withoutArticle, if_pos hdigit, dropArticle]
    split
    · rw [String.toList_ofList, articleLength, if_pos hdigit]
      exact (h.drop _).isInfix
    · exact hwhole
  · rwa [withoutArticle, if_neg hdigit]

theorem titleOf_infix_authorText {r : RecordView} {f : Field} (hf : f ∈ r.fields)
    (htag : f.tag ∈ authorTitleTags) : (titleOf f).toList <:+: (authorText r).toList := by
  by_cases hempty : titleOf f = ""
  · rw [hempty]
    exact List.nil_infix
  · have htagged : f ∈ r.tagged f.tag := List.mem_filter.mpr ⟨hf, by simp⟩
    have hmem : titleOf f ∈ titlesOf r := by
      refine List.mem_filter.mpr ⟨?_, by simp [hempty]⟩
      exact List.mem_flatMap.mpr ⟨f.tag, htag, List.mem_map_of_mem htagged⟩
    have hpart : ("     " ++ titleOf f).toList <:+:
        (String.join ((titlesOf r).map fun t => "     " ++ t)).toList := by
      rw [String.toList_join, List.flatMap_def]
      exact List.infix_of_mem_flatten (List.mem_map_of_mem (List.mem_map_of_mem hmem))
    rw [authorText, String.toList_append]
    have hlast := (List.suffix_append (nameOf r).toList
      (String.join ((titlesOf r).map fun t => "     " ++ t)).toList).isInfix
    rw [String.toList_append] at hpart
    exact ((List.suffix_append _ _).isInfix.trans hpart).trans hlast

/-! ## Where linkage values go -/

/-- How linkage values of a record take part in what is computed of it. -/
structure LinkageFlow {α : Type} (result : RecordView → α) (r : RecordView) : Prop where
  /-- Those of main entries do not. -/
  name : result (r.withoutLinkage authorTags) = result r
  /-- If those of titles are empty, no linkage value does. -/
  unlinked : (∀ f ∈ r.fields, f.tag ∈ authorTitleTags → Unlinked f) →
    result (r.withoutLinkage (authorTags ++ authorTitleTags)) = result r
  /-- One in front of a title does, less the characters that the field counts as its article. -/
  title : ∀ f ∈ r.fields, f.tag ∈ authorTitleTags → ∀ v rest,
    f.subfields = ⟨linkageCode, v⟩ :: rest →
      v.toList.drop (articleLength f) <:+: (authorText r).toList

theorem linkageFlow_authorKey? (r : RecordView) : LinkageFlow authorKey? r where
  name := by
    have htext : authorText (r.withoutLinkage authorTags) = authorText r := by
      refine authorText_withoutLinkage fun f _ htitle hname => ?_
      -- no tag is one of both
      have hdisjoint : ∀ t ∈ authorTags, t ∉ authorTitleTags := by decide
      exact absurd htitle (hdisjoint _ hname)
    rw [authorKey?, authorKey?, htext]
  unlinked h := by
    rw [authorKey?, authorKey?, authorText_withoutLinkage fun f hf htitle _ => h f hf htitle]
  title f hf htag v rest hsubfields := by
    have hvalues : f.values = v :: rest.map Subfield.value := by
      rw [Field.values, hsubfields, List.map_cons]
    have hcut := drop_infix_withoutArticle (f := f) (prefix_joinWords v (rest.map Subfield.value))
    rw [← hvalues] at hcut
    exact hcut.trans (titleOf_infix_authorText hf htag)

/-- **Linkage values stay out of names, not out of titles.** On every index that holds what it
reads, the derivation keeps the values that it is given and appends the author key of the record, if
there is one. Linkage values of main entries never take part in it, and those of titles do not if
they are empty. -/
theorem apply_sortAuthor_linkage (hi : Derivation.sortAuthor.Supplied i) (r : RecordView)
    (languages : LanguageTable) (values : List String) :
    Derivation.sortAuthor.apply (build r i) languages values =
      values ++ (authorKey? r).toList ∧
    LinkageFlow (fun r => Derivation.sortAuthor.apply (build r i) languages values) r := by
  have happly : ∀ r, Derivation.sortAuthor.apply (build r i) languages values =
      values ++ (authorKey? r).toList := by
    intro r
    rw [Derivation.apply, author?_build hi.1]
  obtain ⟨hname, hunlinked, htitle⟩ := linkageFlow_authorKey? r
  refine ⟨happly r, ?_, fun h => ?_, htitle⟩
  · rw [happly, happly, hname]
  · rw [happly, happly, hunlinked h]

/-- A linked title with an article, and a main entry with a link of its own. -/
def linkedTitle : RecordView where
  control := []
  fields := [
    ⟨"100", '1', ' ', [⟨'6', "880-02"⟩, ⟨'a', "Author"⟩]⟩,
    ⟨"245", '1', '4', [⟨'6', "880-01"⟩, ⟨'a', "The Test"⟩]⟩]

theorem supplied_sortAuthor :
    Derivation.sortAuthor.Supplied (Derivation.sortAuthor.addInterest .least) :=
  Derivation.supplied_addInterest _ _

theorem apply_sortAuthor_linkage_linkedTitle :
    Derivation.sortAuthor.Supplied (Derivation.sortAuthor.addInterest .least) ∧
    Derivation.sortAuthor.apply
      (build (linkedTitle.withoutLinkage authorTags) (Derivation.sortAuthor.addInterest .least))
      .standard ["kept"] = ["kept", "author     01 the test"] := by
  have hlinkage := apply_sortAuthor_linkage supplied_sortAuthor linkedTitle .standard ["kept"]
  refine ⟨supplied_sortAuthor, hlinkage.2.name.trans (hlinkage.1.trans ?_)⟩
  decide

/-- The article is cut from the linkage value of this title, and the rest of it gets into the key;
without the linkage value the key is another one. -/
theorem linkage_changes_key :
    Derivation.sortAuthor.apply (build linkedTitle (Derivation.sortAuthor.addInterest .least))
      .standard [] = ["author     01 the test"] ∧
    Derivation.sortAuthor.apply
      (build (linkedTitle.withoutLinkage (authorTags ++ authorTitleTags))
        (Derivation.sortAuthor.addInterest .least)) .standard [] = ["author     test"] := by
  constructor
  · rw [Derivation.apply, author?_build supplied_sortAuthor.1]
    decide
  · rw [Derivation.apply, author?_build supplied_sortAuthor.1]
    decide

end SortKey

end MarcHarvest
