import QueryWorkload.Backend
import QueryWorkload.Calendar
import QueryWorkload.CommandLine.Arguments
import QueryWorkload.CommandLine.Files
import QueryWorkload.CommandLine.Overrides
import QueryWorkload.CommandLine.Run
import QueryWorkload.Duration
import QueryWorkload.Duration.Span
import QueryWorkload.Entity
import QueryWorkload.Failure
import QueryWorkload.Filling
import QueryWorkload.Instant
import QueryWorkload.Instant.Timestamp
import QueryWorkload.Json
import QueryWorkload.Json.Reader
import QueryWorkload.Main
import QueryWorkload.Metric
import QueryWorkload.Names
import QueryWorkload.Output
import QueryWorkload.Pipeline.Aggregation
import QueryWorkload.Pipeline.Document
import QueryWorkload.Pipeline.Stage
import QueryWorkload.Plan
import QueryWorkload.Population
import QueryWorkload.Query
import QueryWorkload.Random.ChaCha
import QueryWorkload.Random.Draw
import QueryWorkload.Random.Shuffle
import QueryWorkload.Random.Source
import QueryWorkload.Sampler
import QueryWorkload.Scenario
import QueryWorkload.Selector
import QueryWorkload.Settings
import QueryWorkload.Settings.Fields
import QueryWorkload.Settings.Json
import QueryWorkload.Settings.Yaml
import QueryWorkload.Signed
import QueryWorkload.Sql.Statement
import QueryWorkload.Sql.Tag
import QueryWorkload.Text.Blank
import QueryWorkload.Text.Hidden
import QueryWorkload.Text.Numeral
import QueryWorkload.Text.Quoted
import QueryWorkload.TimeRange
import QueryWorkload.UseCase
import QueryWorkload.Workload
import QueryWorkload.Yaml.Cursor
import QueryWorkload.Yaml.Document
import QueryWorkload.Yaml.Layout
import QueryWorkload.Yaml.Node
import QueryWorkload.Yaml.Scalar
import QueryWorkload.Yaml.Schema
import QueryWorkload.Yaml.Tag
import QueryWorkload.Yaml.Token
import QueryWorkload.Proofs.Batch
import QueryWorkload.Proofs.BenchmarkRange
import QueryWorkload.Proofs.Builders
import QueryWorkload.Proofs.Calendar
import QueryWorkload.Proofs.Containment
import QueryWorkload.Proofs.Delivery
import QueryWorkload.Proofs.Distinct
import QueryWorkload.Proofs.Draw
import QueryWorkload.Proofs.DurationLabel
import QueryWorkload.Proofs.DurationReading
import QueryWorkload.Proofs.Evaluation
import QueryWorkload.Proofs.Filling
import QueryWorkload.Proofs.FixedWidth
import QueryWorkload.Proofs.FleetSize
import QueryWorkload.Proofs.Generation
import QueryWorkload.Proofs.Instant
import QueryWorkload.Proofs.JsonReading
import QueryWorkload.Proofs.JsonText
import QueryWorkload.Proofs.Label
import QueryWorkload.Proofs.Lockstep
import QueryWorkload.Proofs.Names
import QueryWorkload.Proofs.Numeral
import QueryWorkload.Proofs.NumeralReading
import QueryWorkload.Proofs.Occurrence
import QueryWorkload.Proofs.Outcome
import QueryWorkload.Proofs.OutputLines
import QueryWorkload.Proofs.Permutation
import QueryWorkload.Proofs.Plan
import QueryWorkload.Proofs.Precedence
import QueryWorkload.Proofs.Question
import QueryWorkload.Proofs.Rank
import QueryWorkload.Proofs.Reach
import QueryWorkload.Proofs.Refill
import QueryWorkload.Proofs.Refusal
import QueryWorkload.Proofs.Requests
import QueryWorkload.Proofs.Sampling
import QueryWorkload.Proofs.Seeds
import QueryWorkload.Proofs.Selection
import QueryWorkload.Proofs.SettingsReading
import QueryWorkload.Proofs.Shares
import QueryWorkload.Proofs.Signed
import QueryWorkload.Proofs.Span
import QueryWorkload.Proofs.Spread
import QueryWorkload.Proofs.Startup
import QueryWorkload.Proofs.StatementColumns
import QueryWorkload.Proofs.StatementLines
import QueryWorkload.Proofs.TagFilter
import QueryWorkload.Proofs.Tiling
import QueryWorkload.Proofs.TimeLiteral
import QueryWorkload.Proofs.TimestampReading
import QueryWorkload.Proofs.Uniform
import QueryWorkload.Proofs.Validation
import QueryWorkload.Proofs.Window
import QueryWorkload.Proofs.Wording
import QueryWorkload.Proofs.Workers
