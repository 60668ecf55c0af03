import MarcHarvest.Proofs.Derivation.Reading
import MarcHarvest.Proofs.Index.Inquiry

/-!
# What derivations look up

The derivations as inquiries. A search over several tags ends with the first one that has what is
sought, and publication statements are looked at only if no date is coded; so the questions of a run
depend on the record. All of them are about tags that the derivation declares, or about a control
field if it declares that it reads these (`asksOnly_apply`).
-/

namespace MarcHarvest.Inquiry

variable {index : Index} {P : Query → Prop}

/-! ## Sort keys -/

section SortKey

open SortKey Text

def title? : Inquiry (Option String) := do
  let fields ← direct titleTag
  return (firstTitle? titleProper fields <|> firstTitle? formTitle fields).bind ofText?

/-- The name in the main entry, empty if there is none. -/
def authorName : Inquiry String := do
  let name ← authorTags.findSomeM? fun tag => do
    let fields ← direct tag
    return (fields.flatMap fun e => e.field.alphabeticValues).find? fun v => !v.isEmpty
  return name.getD ""

def authorTitles : Inquiry (List String) := do
  let titles ← authorTitleTags.mapM fun tag => do
    let fields ← direct tag
    return fields.map fun e => withoutArticle e.field (joinWords e.field.values)
  return titles.flatten.filter fun t => !t.isEmpty

def author? : Inquiry (Option String) := do
  let name ← authorName
  let titles ← authorTitles
  let text := name ++ String.join (titles.map fun t => "     " ++ t)
  return ofText? (String.ofList (trimBlanks text.toList))

theorem run_title? : title?.run index = SortKey.title? index := by
  rw [title?, run_bind, run_direct, run_pure, SortKey.title?]

theorem run_authorName : authorName.run index = SortKey.authorName index := by
  simp only [authorName, run_bind, run_findSomeM?, run_direct, run_pure, SortKey.authorName]

theorem run_authorTitles : authorTitles.run index = SortKey.authorTitles index := by
  simp only [authorTitles, run_bind, run_mapM, run_direct, run_pure, SortKey.authorTitles,
    List.flatMap_def]

theorem run_author? : author?.run index = SortKey.author? index := by
  rw [author?, run_bind, run_bind, run_authorName, run_authorTitles, run_pure, SortKey.author?]

theorem asksOnly_title? (h : P (.direct titleTag)) : title?.AsksOnly P :=
  (AsksOnly.direct h).bind fun _ => .pure _

theorem asksOnly_authorName (h : ∀ t ∈ authorTags, P (.direct t)) : authorName.AsksOnly P := by
  refine (AsksOnly.findSomeM? fun t ht => ?_).bind fun _ => .pure _
  exact (AsksOnly.direct (h t ht)).bind fun _ => .pure _

theorem asksOnly_authorTitles (h : ∀ t ∈ authorTitleTags, P (.direct t)) :
    authorTitles.AsksOnly P := by
  refine (AsksOnly.mapM fun t ht => ?_).bind fun _ => .pure _
  exact (AsksOnly.direct (h t ht)).bind fun _ => .pure _

theorem asksOnly_author? (h : ∀ t ∈ authorTags ++ authorTitleTags, P (.direct t)) :
    author?.AsksOnly P := by
  have hname := asksOnly_authorName fun t ht => h t (List.mem_append_left _ ht)
  have htitles := asksOnly_authorTitles fun t ht => h t (List.mem_append_right _ ht)
  exact hname.bind fun _ => htitles.bind fun _ => .pure _

end SortKey

/-! ## Publication dates -/

section PublicationDate

open PublicationDate

def statements (tag : String) : Inquiry (List String) := do
  let fields ← direct tag
  return (fields.filterMap fun e => e.field.value? 'c').filter fun t => !t.isEmpty

/-- The date of the first publication statement that has one. -/
def described? (type : Option Char) : Inquiry (Option String) :=
  statementTags.findSomeM? fun tag => do
    let texts ← statements tag
    return texts.findSome? fun text => ofText? text type

/-- The date of publication. Statements are asked for only if no date is coded. -/
def publicationDate? : Inquiry (Option String) := do
  let coded ← control codedTag
  let payload := (coded.map fun c => c.value.toList).getD []
  let type := type? payload
  match type.bind (coded? payload) with
  | some date => return some date
  | none => described? type

theorem run_described? (type : Option Char) :
    (described? type).run index = PublicationDate.described? index type := by
  simp only [described?, statements, run_findSomeM?, run_bind, run_direct, run_pure,
    PublicationDate.described?, PublicationDate.statements]

theorem run_publicationDate? :
    publicationDate?.run index = PublicationDate.publicationDate? index := by
  rw [publicationDate?, run_bind, run_control, PublicationDate.publicationDate?]
  dsimp only
  split
  · next date hdate =>
    rw [hdate, run_pure]
    rfl
  · next hnone =>
    rw [hnone, run_described?]
    rfl

theorem asksOnly_described? (h : ∀ t ∈ statementTags, P (.direct t)) (type : Option Char) :
    (described? type).AsksOnly P := by
  refine AsksOnly.findSomeM? fun t ht => ?_
  have hstatements : (statements t).AsksOnly P := (AsksOnly.direct (h t ht)).bind fun _ => .pure _
  exact hstatements.bind fun _ => .pure _

theorem asksOnly_publicationDate? (hcontrol : P (.control codedTag))
    (h : ∀ t ∈ statementTags, P (.direct t)) : publicationDate?.AsksOnly P := by
  refine (AsksOnly.control hcontrol).bind fun coded => ?_
  dsimp only
  split
  · exact .pure _
  · exact asksOnly_described? h _

end PublicationDate

/-! ## Subject headings -/

section SubjectHeading

open SubjectHeading

def addHeadings (values : List String) : Inquiry (List String) := do
  let fields ← directWhere isSubject
  return addAllDistinct values (fields.filterMap fun e => heading? e.field)

theorem run_addHeadings (values : List String) :
    (addHeadings values).run index = SubjectHeading.addHeadings index values := by
  rw [addHeadings, run_bind, run_directWhere, run_pure, SubjectHeading.addHeadings]

theorem asksOnly_addHeadings (h : P (.directWhere isSubject)) (values : List String) :
    (addHeadings values).AsksOnly P :=
  (AsksOnly.directWhere h).bind fun _ => .pure _

end SubjectHeading

/-! ## All derivations -/

def apply (d : Derivation) (languages : LanguageTable) (values : List String) :
    Inquiry (List String) :=
  match d with
  | .sortTitle => do return values ++ (← title?).toList
  | .sortAuthor => do return values ++ (← author?).toList
  | .publicationDate => do return values ++ (← publicationDate?).toList
  | .languageNames => return languages.namesIn values
  | .subjectHeadings => addHeadings values

theorem run_apply (d : Derivation) (languages : LanguageTable) (values : List String) :
    (apply d languages values).run index = d.apply index languages values := by
  cases d with
  | sortTitle => rw [apply, run_bind, run_title?, run_pure, Derivation.apply]
  | sortAuthor => rw [apply, run_bind, run_author?, run_pure, Derivation.apply]
  | publicationDate => rw [apply, run_bind, run_publicationDate?, run_pure, Derivation.apply]
  | languageNames => rfl
  | subjectHeadings => exact run_addHeadings values

/-- An interest with what a derivation declares covers what it asks. For subject headings this says
that every tag that passes their test is declared. -/
theorem asksOnly_apply {d : Derivation} {i : Interest} (h : d.Supplied i)
    (languages : LanguageTable) (values : List String) :
    (apply d languages values).AsksOnly i.Covers := by
  have hdirect : ∀ t ∈ d.tags, i.Covers (.direct t) := h.1
  cases d with
  | sortTitle =>
    exact (asksOnly_title? (hdirect _ (List.mem_singleton_self _))).bind fun _ => .pure _
  | sortAuthor => exact (asksOnly_author? hdirect).bind fun _ => .pure _
  | publicationDate =>
    have hcontrol : i.Covers (.control PublicationDate.codedTag) := h.2 rfl
    exact (asksOnly_publicationDate? hcontrol hdirect).bind fun _ => .pure _
  | languageNames => exact .pure _
  | subjectHeadings =>
    refine asksOnly_addHeadings (fun t ht => ?_) values
    exact h.1 t (SubjectHeading.mem_tags_of_isSubject ht)

end MarcHarvest.Inquiry
