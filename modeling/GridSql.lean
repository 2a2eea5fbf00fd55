import GridSql.Binary64.Basic
import GridSql.Binary64.Shortest
import GridSql.Binary64.Text
import GridSql.Calendar.Date
import GridSql.Calendar.Instant
import GridSql.Calendar.Layout
import GridSql.Calendar.Timestamp
import GridSql.Command.Options
import GridSql.Command.Run
import GridSql.Decimal.Basic
import GridSql.Decimal.Float
import GridSql.Decimal.Literal
import GridSql.Error
import GridSql.Filter.Compile
import GridSql.Filter.Model
import GridSql.Filter.Option
import GridSql.Filter.Predicate
import GridSql.Filter.Quick
import GridSql.Filter.Recognize
import GridSql.Filter.Rules
import GridSql.Grid.Answer
import GridSql.Grid.Basic
import GridSql.Grid.Columns
import GridSql.Grid.Compile
import GridSql.Grid.Filters
import GridSql.Grid.Request
import GridSql.Grid.RowObject
import GridSql.Grid.Validate
import GridSql.Json.Basic
import GridSql.Json.Parser
import GridSql.Json.Printer
import GridSql.Json.Record
import GridSql.Literal
import GridSql.Main
import GridSql.Plan.Grouping
import GridSql.Plan.Pivot
import GridSql.Plan.Sort
import GridSql.Power
import GridSql.Proofs.Calendar.Order
import GridSql.Proofs.Calendar.ReadBack
import GridSql.Proofs.Calendar.Readings
import GridSql.Proofs.Decimal.Digits
import GridSql.Proofs.Decimal.Order
import GridSql.Proofs.Decimal.Sums
import GridSql.Proofs.Filter.AdvancedFilters
import GridSql.Proofs.Filter.Collected
import GridSql.Proofs.Filter.Correctness
import GridSql.Proofs.Filter.EnginePatterns
import GridSql.Proofs.Filter.ExactSets
import GridSql.Proofs.Filter.Faults
import GridSql.Proofs.Filter.FormattedSearch
import GridSql.Proofs.Filter.Forms
import GridSql.Proofs.Filter.IgnoringCase
import GridSql.Proofs.Filter.LiteralPatterns
import GridSql.Proofs.Filter.Meaning
import GridSql.Proofs.Filter.Operators
import GridSql.Proofs.Filter.OwnRecognizers
import GridSql.Proofs.Filter.OwnRow
import GridSql.Proofs.Filter.Parts
import GridSql.Proofs.Filter.QuickSearch
import GridSql.Proofs.Filter.Recognition
import GridSql.Proofs.Filter.Refusals
import GridSql.Proofs.Filter.Rendered
import GridSql.Proofs.Filter.Rules
import GridSql.Proofs.Filter.ScalarPredicate
import GridSql.Proofs.Filter.Searching
import GridSql.Proofs.Filter.TextPredicate
import GridSql.Proofs.Filter.TruthValues
import GridSql.Proofs.Grid.AggregateQueries
import GridSql.Proofs.Grid.AllowedOperators
import GridSql.Proofs.Grid.Counting
import GridSql.Proofs.Grid.DrillDown
import GridSql.Proofs.Grid.FilterAccess
import GridSql.Proofs.Grid.FilteredGroups
import GridSql.Proofs.Grid.GeneratedFilters
import GridSql.Proofs.Grid.GeneratedNames
import GridSql.Proofs.Grid.GroupAggregates
import GridSql.Proofs.Grid.GroupRows
import GridSql.Proofs.Grid.IgnoredFilters
import GridSql.Proofs.Grid.Levels
import GridSql.Proofs.Grid.OfferedValues
import GridSql.Proofs.Grid.OutputNames
import GridSql.Proofs.Grid.OwnTable
import GridSql.Proofs.Grid.Pages
import GridSql.Proofs.Grid.Permissions
import GridSql.Proofs.Grid.PivotCeiling
import GridSql.Proofs.Grid.Pivoted
import GridSql.Proofs.Grid.Planned
import GridSql.Proofs.Grid.Registered
import GridSql.Proofs.Grid.Rejection
import GridSql.Proofs.Grid.Reported
import GridSql.Proofs.Grid.RowLeaves
import GridSql.Proofs.Grid.RowObject
import GridSql.Proofs.Grid.Selection
import GridSql.Proofs.Grid.Shown
import GridSql.Proofs.Grid.SortedRows
import GridSql.Proofs.Grid.TableNames
import GridSql.Proofs.Grid.Windows
import GridSql.Proofs.Grid.WithoutFilters
import GridSql.Proofs.Plan.Combinations
import GridSql.Proofs.Plan.GroupKeys
import GridSql.Proofs.Plan.PivotMatches
import GridSql.Proofs.Plan.PivotNames
import GridSql.Proofs.Plan.Positions
import GridSql.Proofs.Result
import GridSql.Proofs.Settings.References
import GridSql.Proofs.Sql.Columns
import GridSql.Proofs.Sql.Comments
import GridSql.Proofs.Sql.Faithful
import GridSql.Proofs.Sql.Injection
import GridSql.Proofs.Sql.Lexing
import GridSql.Proofs.Sql.Nodes
import GridSql.Proofs.Sql.Quoting
import GridSql.Proofs.Sql.ReadBack
import GridSql.Proofs.Sql.ReadValue
import GridSql.Proofs.Sql.Reading
import GridSql.Proofs.Sql.Spacing
import GridSql.Proofs.Sql.Written
import GridSql.Proofs.Table.ColumnOrder
import GridSql.Proofs.Table.ColumnValues
import GridSql.Proofs.Table.Distinct
import GridSql.Proofs.Table.DistinctRows
import GridSql.Proofs.Table.Expansions
import GridSql.Proofs.Table.Grouped
import GridSql.Proofs.Table.JoinedTruth
import GridSql.Proofs.Table.Joins
import GridSql.Proofs.Table.KnownSource
import GridSql.Proofs.Table.LikeMatch
import GridSql.Proofs.Table.Loaded
import GridSql.Proofs.Table.Matched
import GridSql.Proofs.Table.Numbered
import GridSql.Proofs.Table.PatternCache
import GridSql.Proofs.Table.RegexSearch
import GridSql.Proofs.Table.Renamed
import GridSql.Proofs.Table.RowOrder
import GridSql.Proofs.Table.Scoping
import GridSql.Proofs.Table.SelectList
import GridSql.Proofs.Table.SortOrder
import GridSql.Proofs.Table.Sorting
import GridSql.Proofs.Table.Subquery
import GridSql.Proofs.Table.Substitution
import GridSql.Proofs.Table.Synchronized
import GridSql.Proofs.Table.Truth
import GridSql.Proofs.Text.LowerCase
import GridSql.Proofs.Text.Words
import GridSql.Proofs.Value.Content
import GridSql.Proofs.Value.Order
import GridSql.Proofs.Value.Swap
import GridSql.Proofs.Violations
import GridSql.Settings.Basic
import GridSql.Settings.Environment
import GridSql.Settings.Error
import GridSql.Settings.File
import GridSql.Sql.Coerce
import GridSql.Sql.Dialect
import GridSql.Sql.Equality
import GridSql.Sql.Expr
import GridSql.Sql.Render
import GridSql.Sql.Token
import GridSql.Table.Basic
import GridSql.Table.Error
import GridSql.Table.Eval
import GridSql.Table.File
import GridSql.Table.Like
import GridSql.Table.Pattern
import GridSql.Table.Regex
import GridSql.Table.Run
import GridSql.Text.Blank
import GridSql.Text.Case
import GridSql.Text.CaseTable
import GridSql.Toml.Basic
import GridSql.Toml.Parser
import GridSql.Toml.Scalar
import GridSql.Toml.Text
import GridSql.Value.Basic
import GridSql.Value.Json
