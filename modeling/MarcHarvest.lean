import MarcHarvest.Batch
import MarcHarvest.Component.Basic
import MarcHarvest.Component.Fault
import MarcHarvest.Component.Parser
import MarcHarvest.Derivation.Basic
import MarcHarvest.Derivation.Distinct
import MarcHarvest.Derivation.Language
import MarcHarvest.Derivation.LanguageCodes
import MarcHarvest.Derivation.PublicationDate
import MarcHarvest.Derivation.SortKey
import MarcHarvest.Derivation.SubjectHeading
import MarcHarvest.Error
import MarcHarvest.Extractor.Basic
import MarcHarvest.Extractor.Config
import MarcHarvest.FieldSpec
import MarcHarvest.Filter
import MarcHarvest.Index.Basic
import MarcHarvest.Index.Interest
import MarcHarvest.Index.Origin
import MarcHarvest.Json.Basic
import MarcHarvest.Json.Bytes
import MarcHarvest.Json.Parser
import MarcHarvest.Json.Plain
import MarcHarvest.Json.Printer
import MarcHarvest.Json.Shape
import MarcHarvest.OrderedMap
import MarcHarvest.Pattern.Basic
import MarcHarvest.Pattern.CharSet
import MarcHarvest.Pattern.Extent
import MarcHarvest.Pattern.Program
import MarcHarvest.Pattern.PropertyName
import MarcHarvest.Pattern.Reader
import MarcHarvest.Pattern.Reader.Class
import MarcHarvest.Pattern.Reader.Escape
import MarcHarvest.Pattern.Reader.Option
import MarcHarvest.Pattern.Search
import MarcHarvest.Pattern.Size
import MarcHarvest.Proofs.Batch.Interest
import MarcHarvest.Proofs.Batch.Isolation
import MarcHarvest.Proofs.Batch.Loading
import MarcHarvest.Proofs.Component.Faults
import MarcHarvest.Proofs.Component.Grammar
import MarcHarvest.Proofs.Derivation.Appending
import MarcHarvest.Proofs.Derivation.AuthorKey
import MarcHarvest.Proofs.Derivation.DatePrecedence
import MarcHarvest.Proofs.Derivation.Distinct
import MarcHarvest.Proofs.Derivation.HeadingOrder
import MarcHarvest.Proofs.Derivation.LanguageNames
import MarcHarvest.Proofs.Derivation.LookUps
import MarcHarvest.Proofs.Derivation.PlainYears
import MarcHarvest.Proofs.Derivation.Reading
import MarcHarvest.Proofs.Derivation.RecordHeadings
import MarcHarvest.Proofs.Derivation.SortKeys
import MarcHarvest.Proofs.Derivation.SubjectTags
import MarcHarvest.Proofs.Derivation.TypeCase
import MarcHarvest.Proofs.Derivation.YearPatterns
import MarcHarvest.Proofs.Derivation.YearReadings
import MarcHarvest.Proofs.Derivation.YearSigns
import MarcHarvest.Proofs.Derivation.YearWords
import MarcHarvest.Proofs.Derivation.Years
import MarcHarvest.Proofs.Except
import MarcHarvest.Proofs.Extractor.Compilation
import MarcHarvest.Proofs.Extractor.ConfigJson
import MarcHarvest.Proofs.Extractor.EmptyValues
import MarcHarvest.Proofs.Extractor.Grouping
import MarcHarvest.Proofs.Extractor.Interest
import MarcHarvest.Proofs.Extractor.Offsets
import MarcHarvest.Proofs.Extractor.Scan
import MarcHarvest.Proofs.Extractor.Scripts
import MarcHarvest.Proofs.FieldSpec
import MarcHarvest.Proofs.Index.Contents
import MarcHarvest.Proofs.Index.Inquiry
import MarcHarvest.Proofs.Index.Invariant
import MarcHarvest.Proofs.Index.Merging
import MarcHarvest.Proofs.Json.Members
import MarcHarvest.Proofs.Json.Printing
import MarcHarvest.Proofs.Json.Rewriting
import MarcHarvest.Proofs.Json.Structure
import MarcHarvest.Proofs.OrderedMap
import MarcHarvest.Proofs.Pattern.Backtracking
import MarcHarvest.Proofs.Pattern.Compilation
import MarcHarvest.Proofs.Pattern.Matches
import MarcHarvest.Proofs.Record.ControlTags
import MarcHarvest.Proofs.Record.Exchange
import MarcHarvest.Proofs.Record.Mutation
import MarcHarvest.Proofs.Record.PlainJson
import MarcHarvest.Proofs.Record.Shape
import MarcHarvest.Proofs.Safety.Access
import MarcHarvest.Proofs.Safety.Derivation
import MarcHarvest.Proofs.Safety.Extraction
import MarcHarvest.Proofs.Safety.Index
import MarcHarvest.Proofs.StableSort
import MarcHarvest.Proofs.Text.Decimal
import MarcHarvest.Proofs.Text.Pieces
import MarcHarvest.Proofs.Text.Punctuation
import MarcHarvest.Proofs.Text.Remains
import MarcHarvest.Proofs.Text.TrailingPatterns
import MarcHarvest.Proofs.Text.Trim
import MarcHarvest.Record.Basic
import MarcHarvest.Record.Linkage
import MarcHarvest.Record.MarcJson
import MarcHarvest.Record.PlainJson
import MarcHarvest.Text.Decimal
import MarcHarvest.Text.Join
import MarcHarvest.Text.Lowercase
import MarcHarvest.Text.Punctuation
import MarcHarvest.Text.Quoted
import MarcHarvest.Text.Split
import MarcHarvest.Text.Trim
import MarcHarvest.Unicode.CaseRuns
import MarcHarvest.Unicode.Casing
import MarcHarvest.Unicode.Category.Letter
import MarcHarvest.Unicode.Category.Mark
import MarcHarvest.Unicode.Category.Symbol
import MarcHarvest.Unicode.CodeSet
import MarcHarvest.Unicode.Contributory
import MarcHarvest.Unicode.GeneralCategory
import MarcHarvest.Unicode.Property
import MarcHarvest.Unicode.Script
import MarcHarvest.Unicode.Span
import MarcHarvest.Unicode.Version
