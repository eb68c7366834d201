import RelationalSearch.Calendar.Date
import RelationalSearch.Calendar.FreeForm
import RelationalSearch.Calendar.FreeForm.Parts
import RelationalSearch.Calendar.FreeForm.Token
import RelationalSearch.Calendar.FreeForm.Words
import RelationalSearch.Calendar.Written
import RelationalSearch.Calendar.Zone
import RelationalSearch.Calendar.ZoneTable
import RelationalSearch.Calendar.ZoneTable.Africa
import RelationalSearch.Calendar.ZoneTable.AmericaFirst
import RelationalSearch.Calendar.ZoneTable.AmericaSecond
import RelationalSearch.Calendar.ZoneTable.Asia
import RelationalSearch.Calendar.ZoneTable.Europe
import RelationalSearch.Calendar.ZoneTable.Fixed
import RelationalSearch.Calendar.ZoneTable.Names
import RelationalSearch.Calendar.ZoneTable.Oceans
import RelationalSearch.Calendar.ZonedTime
import RelationalSearch.Checked
import RelationalSearch.Console.CellTable
import RelationalSearch.Console.Cells
import RelationalSearch.Console.Grid
import RelationalSearch.Console.Markup
import RelationalSearch.Console.Outline
import RelationalSearch.Console.Panel
import RelationalSearch.Console.Rule
import RelationalSearch.Console.Shortcode
import RelationalSearch.Console.Shortcode.Early
import RelationalSearch.Console.Shortcode.Late
import RelationalSearch.Console.Shortcode.Middle
import RelationalSearch.Console.StyleName
import RelationalSearch.Console.Wrap
import RelationalSearch.Display
import RelationalSearch.Endpoint
import RelationalSearch.Entity
import RelationalSearch.Entity.Declared
import RelationalSearch.Entity.Mapped
import RelationalSearch.Error
import RelationalSearch.Exchange
import RelationalSearch.Log
import RelationalSearch.Log.Script
import RelationalSearch.Narrated
import RelationalSearch.Number.Binary64
import RelationalSearch.Number.Binary64Text
import RelationalSearch.Number.Nearest
import RelationalSearch.Params.Bag
import RelationalSearch.Params.Bracket
import RelationalSearch.Params.QueryString
import RelationalSearch.Params.Scope
import RelationalSearch.Params.Source
import RelationalSearch.Predicate
import RelationalSearch.Predicate.Build
import RelationalSearch.Predicate.Draft
import RelationalSearch.Predicate.Exchange
import RelationalSearch.Predicate.Leaf
import RelationalSearch.Predicate.Text
import RelationalSearch.Proofs.Addressing
import RelationalSearch.Proofs.Compilation
import RelationalSearch.Proofs.Composition
import RelationalSearch.Proofs.Graph
import RelationalSearch.Proofs.Hop
import RelationalSearch.Proofs.Leaves
import RelationalSearch.Proofs.Lookup
import RelationalSearch.Proofs.Meaning
import RelationalSearch.Proofs.Outcome
import RelationalSearch.Proofs.Scoping
import RelationalSearch.Schema.Catalog
import RelationalSearch.Schema.Category
import RelationalSearch.Schema.ColumnType
import RelationalSearch.Schema.Database
import RelationalSearch.Schema.Introspector
import RelationalSearch.Schema.Provider
import RelationalSearch.Schema.Table
import RelationalSearch.Schema.TypeMap
import RelationalSearch.Schema.TypeModels
import RelationalSearch.Search.Compile
import RelationalSearch.Search.Compiled
import RelationalSearch.Search.Context
import RelationalSearch.Search.LookAhead
import RelationalSearch.Search.Walk
import RelationalSearch.Service
import RelationalSearch.Settings
import RelationalSearch.Settings.Read
import RelationalSearch.Sort
import RelationalSearch.Sql.Build
import RelationalSearch.Sql.Clause
import RelationalSearch.Sql.Metadata
import RelationalSearch.Sql.Naming
import RelationalSearch.Sql.Text
import RelationalSearch.Text.Alphanumeric
import RelationalSearch.Text.Blank
import RelationalSearch.Text.CaseMapping
import RelationalSearch.Text.CodePoints
import RelationalSearch.Text.Digits
import RelationalSearch.Text.LetterCase
import RelationalSearch.Text.Letters
import RelationalSearch.Text.Printable
import RelationalSearch.Text.Quoted
import RelationalSearch.Text.Split
import RelationalSearch.Text.Utf8
import RelationalSearch.TimeRange
import RelationalSearch.Value
import RelationalSearch.Value.Equality
import RelationalSearch.Value.Exchange
import RelationalSearch.Value.Structured
import RelationalSearch.Value.Text
import RelationalSearch.Word.Singular
import RelationalSearch.Word.Snake
import RelationalSearch.Proofs.Refusals
import RelationalSearch.Proofs.Depth
import RelationalSearch.Proofs.Narrowing
import RelationalSearch.Proofs.Span
import RelationalSearch.Proofs.Evaluation
import RelationalSearch.Proofs.Translation
import RelationalSearch.Proofs.NormalForm
import RelationalSearch.Proofs.Exclusion
import RelationalSearch.Proofs.Stray
import RelationalSearch.Proofs.Untaken
import RelationalSearch.Proofs.Staying
import RelationalSearch.Proofs.Reordering
import RelationalSearch.Proofs.Arrival
import RelationalSearch.Proofs.Grounds
import RelationalSearch.Proofs.Operands
import RelationalSearch.Proofs.QueryValues
import RelationalSearch.Proofs.Escapes
import RelationalSearch.Proofs.SchemaCache
import RelationalSearch.Proofs.ComposedClause
import RelationalSearch.Proofs.NestedScopes
import RelationalSearch.Proofs.BroadAlone
import RelationalSearch.Proofs.KeyForms
import RelationalSearch.Proofs.QueryFields
import RelationalSearch.Proofs.LoosePatterns
import RelationalSearch.Proofs.Visits
import RelationalSearch.Proofs.SingleRelation
import RelationalSearch.Proofs.CalendarDays
import RelationalSearch.Proofs.ClockCourse
import RelationalSearch.Proofs.YearlyChanges
import RelationalSearch.Proofs.ZoneCourse
import RelationalSearch.Proofs.WholeDays
import RelationalSearch.Proofs.Questions
import RelationalSearch.Proofs.ColumnParts
import RelationalSearch.Proofs.OrderSpellings
import RelationalSearch.Proofs.NullOrder
import RelationalSearch.Proofs.Connectives
import RelationalSearch.Proofs.OpenBlocks
import RelationalSearch.Proofs.ReadBack
import RelationalSearch.Proofs.SmallLetters
import RelationalSearch.Proofs.Classification
import RelationalSearch.Proofs.MappedJoins
import RelationalSearch.Proofs.Merging
import RelationalSearch.Proofs.TypeNames
