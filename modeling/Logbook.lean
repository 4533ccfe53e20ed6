import Logbook.Text.Digits
import Logbook.Text.Blank
import Logbook.Text.Letter
import Logbook.Text.Quoted
import Logbook.Time.Date
import Logbook.Time.InstantText
import Logbook.Time.ZoneTable
import Logbook.Time.Rows
import Logbook.Number.Decimal
import Logbook.Number.FloatText
import Logbook.Number.Arithmetic
import Logbook.Series.Basic
import Logbook.Series.Segment
import Logbook.Series.FrequencyTable
import Logbook.Series.NumericSummary
import Logbook.Series.Sketch
import Logbook.Series.Aggregate
import Logbook.Formula.Basic
import Logbook.Formula.Token
import Logbook.Number.Sampler
import Logbook.Formula.Calculator
import Logbook.Filter.Basic
import Logbook.Filter.Text
import Logbook.Json.Basic
import Logbook.Json.Reader
import Logbook.Json.Writer
import Logbook.Report.Basic
import Logbook.Document.Archive
import Logbook.Document.Formula
import Logbook.Document.Report
import Logbook.Proofs.Formula.Derivations
import Logbook.Proofs.Formula.RowValues
import Logbook.Proofs.Series.Nesting
import Logbook.Proofs.Report.Rows
import Logbook.Proofs.Formula.Lookups
import Logbook.Proofs.Report.Columns
import Logbook.Proofs.Report.Sources
import Logbook.Proofs.Report.Prefixes
import Logbook.Proofs.Report.EarlierColumns
import Logbook.Proofs.Number.Exact
import Logbook.Proofs.Series.Gathering
import Logbook.Proofs.Series.Places
import Logbook.Proofs.Series.Quantiles
import Logbook.Proofs.Series.QuantileOrder
import Logbook.Proofs.Series.Summaries
import Logbook.Proofs.Series.AggregateOrder
import Logbook.Proofs.Time.RowWalks
import Logbook.Proofs.Report.Kinds
import Logbook.Proofs.Number.Doubles
import Logbook.Proofs.Number.Rounding
import Logbook.Proofs.Number.Nearest
import Logbook.Proofs.Number.Decimals
import Logbook.Proofs.Report.Table
import Logbook.Proofs.Json.RoundTrip
import Logbook.Proofs.Document.Formulas
import Logbook.Proofs.Formula.UsedCalculators
import Logbook.Proofs.Series.Counts
import Logbook.Proofs.Text.Trim
import Logbook.Proofs.Time.InstantText
import Logbook.Proofs.Filter.Text
import Logbook.Proofs.Document.Values
import Logbook.Proofs.Document.Reports
import Logbook.Proofs.Document.Archives
import Logbook.Proofs.Time.Months
import Logbook.Proofs.Time.Steps
import Logbook.Proofs.Time.Gaps
import Logbook.Proofs.Time.Rounds
import Logbook.Proofs.Time.ClockReads
import Logbook.Proofs.Report.EndsOfTime
import Logbook.Proofs.Filter.Statistics
import Logbook.Proofs.Series.Variance
import Logbook.Proofs.Number.DoubleOrder
import Logbook.Proofs.Series.Extremes
import Logbook.Proofs.Series.EqualParts
import Logbook.Proofs.Time.Anchors
import Logbook.Proofs.Series.Frequencies
import Logbook.Proofs.Series.Orderings
import Logbook.Proofs.Series.Shares
import Logbook.Proofs.Formula.Lexemes
import Logbook.Proofs.Formula.CanonicalText
import Logbook.Proofs.Formula.Failures
import Logbook.Proofs.Series.FirstOccurrences
import Logbook.Proofs.Formula.Requests
import Logbook.Proofs.Formula.Separators
import Logbook.Proofs.Formula.DanglingOperators
import Logbook.Proofs.Formula.StackHeights
import Logbook.Proofs.Filter.Reading
import Logbook.Proofs.Time.PeriodText
import Logbook.Proofs.Filter.Positions
import Logbook.Proofs.Filter.Shifts
import Logbook.Proofs.Number.Reals
import Logbook.Proofs.Filter.Rolling
import Logbook.Proofs.Filter.RunningTotals
import Logbook.Proofs.Series.Building
import Logbook.Proofs.Filter.Normalization
import Logbook.Proofs.Series.Entropy
import Logbook.Proofs.Report.Brackets
