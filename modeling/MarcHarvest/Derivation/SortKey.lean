import MarcHarvest.Index.Basic
import MarcHarvest.Text.Decimal
import MarcHarvest.Text.Join
import MarcHarvest.Text.Lowercase
import MarcHarvest.Text.Punctuation

/-!
# Sort keys

Keys by which titles and authors are sorted: in lower case, without final punctuation, and without
the article at the start of a title. The second indicator of a title field tells how many
characters the article takes, the space after it included.
-/

namespace MarcHarvest.SortKey

open Text

def titleTag : String := "245"

/-- The tags of the main entry, the first that has a name wins. -/
def authorTags : List String := ["100", "110", "111"]

/-- The tags of the titles that follow the author: uniform title and title statement. -/
def authorTitleTags : List String := ["240", "245"]

/-- The texts that are not empty, joined by spaces. -/
def joinWords (texts : List String) : String := (joinNonEmpty? " " texts).getD ""

/-- A title without its first `count` characters; a count past its end drops none. -/
def dropArticle (count : Nat) (title : String) : String :=
  if count ≤ title.toList.length then String.ofList (title.toList.drop count) else title

/-- The title of a field without the article that the second indicator counts, if it is a digit. -/
def withoutArticle (f : Field) (title : String) : String :=
  if f.ind2.isDigit then dropArticle (digitValue f.ind2) title else title

/-- Title and subtitle of a field. -/
def titleProper (f : Field) : String :=
  joinWords [(f.joined? "a").getD "", (f.joined? "b").getD ""]

/-- The form of the work, which stands for the title of a collection. -/
def formTitle (f : Field) : String := (f.joined? "k").getD ""

/-- The first text that `text` finds in the fields, without its article. -/
def firstTitle? (text : Field → String) (fields : List PlacedField) : Option String :=
  (fields.find? fun e => !(text e.field).isEmpty).map fun e => withoutArticle e.field (text e.field)

/-- A key from a text: without punctuation, in lower case, and only if something is left. -/
def ofText? (s : String) : Option String :=
  let key := trimPunctuation s
  if key.isEmpty then none else some (lowercase key)

/-- The sort key of the title: of the first title proper, or else of the first form. -/
def title? (index : Index) : Option String :=
  let fields := index.directFields titleTag
  (firstTitle? titleProper fields <|> firstTitle? formTitle fields).bind ofText?

/-- The name in the main entry, empty if there is none. -/
def authorName (index : Index) : String :=
  (authorTags.findSome? fun tag =>
    ((index.directFields tag).flatMap fun e => e.field.alphabeticValues).find?
      fun v => !v.isEmpty).getD ""

/-- The titles that follow the author, without articles; empty ones do not count. -/
def authorTitles (index : Index) : List String :=
  (authorTitleTags.flatMap fun tag => (index.directFields tag).map fun e =>
    withoutArticle e.field (joinWords e.field.values)).filter fun t => !t.isEmpty

/-- The sort key of the author: the name, then each title after five spaces. -/
def author? (index : Index) : Option String :=
  let titles := (authorTitles index).map fun t => "     " ++ t
  let text := authorName index ++ String.join titles
  ofText? (String.ofList (trimBlanks text.toList))

end MarcHarvest.SortKey
