import MarcHarvest.Derivation.Language
import MarcHarvest.Derivation.PublicationDate
import MarcHarvest.Derivation.SortKey
import MarcHarvest.Derivation.SubjectHeading
import MarcHarvest.Error

/-!
# Derivations

What an extractor can do beyond selecting values: append values of its own that it finds in the
index, or map the values that it selected. Each derivation declares the tags that it reads.
-/

namespace MarcHarvest

inductive Derivation where
  | sortTitle
  | sortAuthor
  | publicationDate
  | languageNames
  | subjectHeadings
  deriving Repr, DecidableEq

namespace Derivation

def all : List Derivation :=
  [sortTitle, sortAuthor, publicationDate, languageNames, subjectHeadings]

/-- The identifier of a derivation in configurations. -/
def identifier : Derivation → String
  | sortTitle => "sortTitleExtractor"
  | sortAuthor => "sortAuthorExtractor"
  | publicationDate => "dateExtractor"
  | languageNames => "languageMap"
  | subjectHeadings => "subjectHeadingExtractor"

/-- The derivation with an identifier. -/
def ofIdentifier (identifier : String) : Except SpecError Derivation :=
  match all.find? fun d => d.identifier == identifier with
  | some d => .ok d
  | none => .error (.unknownFunction identifier)

/-- The tags of the data fields that a derivation reads. -/
def tags : Derivation → List String
  | sortTitle => [SortKey.titleTag]
  | sortAuthor => SortKey.authorTags ++ SortKey.authorTitleTags
  | publicationDate => PublicationDate.statementTags
  | languageNames => []
  | subjectHeadings => SubjectHeading.tags

/-- Whether a derivation reads control fields. -/
def needsControl : Derivation → Bool
  | publicationDate => true
  | _ => false

/-- The values after the derivation. -/
def apply (d : Derivation) (index : Index) (languages : LanguageTable)
    (values : List String) : List String :=
  match d with
  | sortTitle => values ++ (SortKey.title? index).toList
  | sortAuthor => values ++ (SortKey.author? index).toList
  | publicationDate => values ++ (PublicationDate.publicationDate? index).toList
  | languageNames => languages.namesIn values
  | subjectHeadings => SubjectHeading.addHeadings index values

/-- The interest that includes what a derivation reads. -/
def addInterest (d : Derivation) (interest : Interest) : Interest :=
  let interest := interest.addTags d.tags
  if d.needsControl then interest.requireControl else interest

end Derivation

end MarcHarvest
