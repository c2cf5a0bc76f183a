import ScrapeTelemetry.Clock.Calendar
import ScrapeTelemetry.Clock.Duration
import ScrapeTelemetry.Clock.DurationText
import ScrapeTelemetry.Clock.Instant
import ScrapeTelemetry.Clock.Timestamp
import ScrapeTelemetry.CommandLine.Arguments
import ScrapeTelemetry.CommandLine.Options
import ScrapeTelemetry.CommandLine.Run
import ScrapeTelemetry.Counter
import ScrapeTelemetry.Exposition.Line
import ScrapeTelemetry.Exposition.Sample
import ScrapeTelemetry.Exposition.Scrape
import ScrapeTelemetry.Failure
import ScrapeTelemetry.Files
import ScrapeTelemetry.Increment.CounterLedger
import ScrapeTelemetry.Increment.HistogramLedger
import ScrapeTelemetry.Increment.Outcome
import ScrapeTelemetry.Increment.SumTracker
import ScrapeTelemetry.Increment.TrafficLedger
import ScrapeTelemetry.Json.Printer
import ScrapeTelemetry.Json.Reader
import ScrapeTelemetry.Json.Value
import ScrapeTelemetry.KeyMap
import ScrapeTelemetry.Latency.Bound
import ScrapeTelemetry.Latency.Histogram
import ScrapeTelemetry.Latency.Percentile
import ScrapeTelemetry.Main
import ScrapeTelemetry.Node.Use
import ScrapeTelemetry.Number.Decimal
import ScrapeTelemetry.Number.Scalar
import ScrapeTelemetry.Number.Shortest
import ScrapeTelemetry.Pattern.CharSet
import ScrapeTelemetry.Pattern.Reader
import ScrapeTelemetry.Pattern.Syntax
import ScrapeTelemetry.Pipeline
import ScrapeTelemetry.Proofs.Clock.Calendar
import ScrapeTelemetry.Proofs.Clock.Seconds
import ScrapeTelemetry.Proofs.Clock.WholeSeconds
import ScrapeTelemetry.Proofs.Exposition.Grammar
import ScrapeTelemetry.Proofs.Exposition.LineByLine
import ScrapeTelemetry.Proofs.Exposition.Reading
import ScrapeTelemetry.Proofs.Exposition.Written
import ScrapeTelemetry.Proofs.Increment.CounterCycle
import ScrapeTelemetry.Proofs.Increment.Growth
import ScrapeTelemetry.Proofs.Increment.HistogramCycle
import ScrapeTelemetry.Proofs.Increment.Run
import ScrapeTelemetry.Proofs.Increment.SeriesBooks
import ScrapeTelemetry.Proofs.Increment.SeriesTotals
import ScrapeTelemetry.Proofs.Increment.StartingOver
import ScrapeTelemetry.Proofs.Increment.TwoTrackers
import ScrapeTelemetry.Proofs.Increment.Unordered
import ScrapeTelemetry.Proofs.KeyMap.Folds
import ScrapeTelemetry.Proofs.KeyMap.Order
import ScrapeTelemetry.Proofs.Latency.Calls
import ScrapeTelemetry.Proofs.Latency.Dips
import ScrapeTelemetry.Proofs.Latency.FirstReached
import ScrapeTelemetry.Proofs.Latency.Layout
import ScrapeTelemetry.Proofs.Latency.Merge
import ScrapeTelemetry.Proofs.Latency.Monotone
import ScrapeTelemetry.Proofs.Latency.Quantile
import ScrapeTelemetry.Proofs.Latency.Spread
import ScrapeTelemetry.Proofs.Node.Memory
import ScrapeTelemetry.Proofs.Node.MemoryRange
import ScrapeTelemetry.Proofs.Node.Rates
import ScrapeTelemetry.Proofs.Number.Amounts
import ScrapeTelemetry.Proofs.Number.Exact
import ScrapeTelemetry.Proofs.Number.Order
import ScrapeTelemetry.Proofs.Number.Packing
import ScrapeTelemetry.Proofs.Number.Products
import ScrapeTelemetry.Proofs.Number.Rounding
import ScrapeTelemetry.Proofs.Number.Shares
import ScrapeTelemetry.Proofs.Number.Signs
import ScrapeTelemetry.Proofs.Number.Zero
import ScrapeTelemetry.Proofs.Pipeline.Bookkeeping
import ScrapeTelemetry.Proofs.Pipeline.Conservation
import ScrapeTelemetry.Proofs.Pipeline.Finite
import ScrapeTelemetry.Proofs.Pipeline.Influence
import ScrapeTelemetry.Proofs.Pipeline.Run
import ScrapeTelemetry.Proofs.Replay.Timing
import ScrapeTelemetry.Proofs.Runs
import ScrapeTelemetry.Proofs.Series.Retention
import ScrapeTelemetry.Proofs.Series.Names
import ScrapeTelemetry.Proofs.Series.Ring
import ScrapeTelemetry.Proofs.Series.Shown
import ScrapeTelemetry.Proofs.Slo.Consistency
import ScrapeTelemetry.Proofs.Slo.Entries
import ScrapeTelemetry.Proofs.Slo.Finite
import ScrapeTelemetry.Proofs.Slo.Totals
import ScrapeTelemetry.Proofs.Slo.Unordered
import ScrapeTelemetry.Proofs.Text.Joins
import ScrapeTelemetry.Proofs.Text.Ports
import ScrapeTelemetry.Proofs.Text.Runs
import ScrapeTelemetry.Proofs.Traffic.Business
import ScrapeTelemetry.Proofs.Traffic.EmptyLabels
import ScrapeTelemetry.Proofs.Traffic.Families
import ScrapeTelemetry.Proofs.Traffic.Identity
import ScrapeTelemetry.Proofs.Traffic.Milliseconds
import ScrapeTelemetry.Proofs.Traffic.Pairing
import ScrapeTelemetry.Proofs.Window.Agreement
import ScrapeTelemetry.Proofs.Window.Asked
import ScrapeTelemetry.Proofs.Window.Consistency
import ScrapeTelemetry.Proofs.Window.Coverage
import ScrapeTelemetry.Proofs.Window.Groups
import ScrapeTelemetry.Proofs.Window.Increase
import ScrapeTelemetry.Proofs.Window.Lengths
import ScrapeTelemetry.Proofs.Window.SubWindows
import ScrapeTelemetry.Proofs.Window.TimeOrder
import ScrapeTelemetry.Proofs.Window.Unordered
import ScrapeTelemetry.Replay
import ScrapeTelemetry.Report.Decoding
import ScrapeTelemetry.Report.Encoding
import ScrapeTelemetry.Series.MinuteRing
import ScrapeTelemetry.Series.Store
import ScrapeTelemetry.Settings.Basic
import ScrapeTelemetry.Settings.Reading
import ScrapeTelemetry.Slo.Aggregate
import ScrapeTelemetry.Text.Affix
import ScrapeTelemetry.Text.Blank
import ScrapeTelemetry.Text.CaseFold
import ScrapeTelemetry.Text.CaseRun
import ScrapeTelemetry.Text.Port
import ScrapeTelemetry.Text.Quoted
import ScrapeTelemetry.Text.Upper
import ScrapeTelemetry.Text.WordChar
import ScrapeTelemetry.Traffic.Business
import ScrapeTelemetry.Traffic.Recognizer
import ScrapeTelemetry.Traffic.Sample
import ScrapeTelemetry.Window.Buckets
import ScrapeTelemetry.Window.Summary
import ScrapeTelemetry.Workload
import ScrapeTelemetry.Yaml.Cursor
import ScrapeTelemetry.Yaml.Node
import ScrapeTelemetry.Yaml.Scalar
import ScrapeTelemetry.Yaml.Token
