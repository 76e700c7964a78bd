import PgMetrics.Catalog.Basic
import PgMetrics.Catalog.Builtin
import PgMetrics.Command.Arguments
import PgMetrics.Command.Config
import PgMetrics.Command.DataSources
import PgMetrics.Command.Run
import PgMetrics.Command.Scrape
import PgMetrics.Command.Switch
import PgMetrics.Command.Validate
import PgMetrics.Decimal.Binary64
import PgMetrics.Decimal.Reader
import PgMetrics.Decimal.Shortest
import PgMetrics.Decimal.Written
import PgMetrics.Digest.Sha256
import PgMetrics.Dsn.Basic
import PgMetrics.Dsn.KeyValue
import PgMetrics.Dsn.Locator
import PgMetrics.Dsn.Settings
import PgMetrics.Dsn.Target
import PgMetrics.Extension.Document
import PgMetrics.Extension.Loader
import PgMetrics.Extension.Reader
import PgMetrics.Failure
import PgMetrics.LogEntry
import PgMetrics.Main
import PgMetrics.Metric.ConstantLabels
import PgMetrics.Metric.Descriptor
import PgMetrics.Metric.Exposition
import PgMetrics.Metric.Maps
import PgMetrics.Metric.Sample
import PgMetrics.Metric.Setting
import PgMetrics.Metric.ViewMap
import PgMetrics.Options
import PgMetrics.Postgres.Decode
import PgMetrics.Postgres.Pool
import PgMetrics.Proofs.Catalog.Gates
import PgMetrics.Proofs.Command.Environment
import PgMetrics.Proofs.Command.Validation
import PgMetrics.Proofs.Decimal.Exact
import PgMetrics.Proofs.Dialogue
import PgMetrics.Proofs.Dsn.Database
import PgMetrics.Proofs.Dsn.Masking
import PgMetrics.Proofs.Lockstep
import PgMetrics.Proofs.Report.JsonText
import PgMetrics.Proofs.Scrape.Blind
import PgMetrics.Proofs.Scrape.Cells
import PgMetrics.Proofs.Scrape.Cycles
import PgMetrics.Proofs.Scrape.Databases
import PgMetrics.Proofs.Scrape.Indicator
import PgMetrics.Proofs.Scrape.Invariants
import PgMetrics.Proofs.Scrape.LabelNames
import PgMetrics.Proofs.Scrape.Labels
import PgMetrics.Proofs.Scrape.Neighbours
import PgMetrics.Proofs.Scrape.Operational
import PgMetrics.Proofs.Scrape.Pass
import PgMetrics.Proofs.Scrape.Readings
import PgMetrics.Proofs.Scrape.Series
import PgMetrics.Proofs.Scrape.Sources
import PgMetrics.Proofs.Session.Accounts
import PgMetrics.Proofs.Session.Acquire
import PgMetrics.Proofs.Session.Alike
import PgMetrics.Proofs.Session.MapCache
import PgMetrics.Proofs.Session.Refresh
import PgMetrics.Proofs.Text.Numerals
import PgMetrics.Proofs.Text.Words
import PgMetrics.Proofs.Version.Ranges
import PgMetrics.Report.Console
import PgMetrics.Report.Declarations
import PgMetrics.Report.Format
import PgMetrics.Report.Json
import PgMetrics.Scrape.Discovery
import PgMetrics.Scrape.Exporter
import PgMetrics.Scrape.Loop
import PgMetrics.Scrape.Report
import PgMetrics.Scrape.Settings
import PgMetrics.Scrape.View
import PgMetrics.Session.Refresh
import PgMetrics.Session.Registry
import PgMetrics.Session.Rehearsal
import PgMetrics.Session.World
import PgMetrics.Table
import PgMetrics.Text.Blank
import PgMetrics.Text.DecimalDigit
import PgMetrics.Text.Integer
import PgMetrics.Text.Pieces
import PgMetrics.Text.Utf8
import PgMetrics.Time.Calendar
import PgMetrics.Time.Duration
import PgMetrics.Time.Timestamp
import PgMetrics.Toml.Basic
import PgMetrics.Toml.Quoted
import PgMetrics.Toml.Reader
import PgMetrics.Url.Address
import PgMetrics.Url.Basic
import PgMetrics.Url.Error
import PgMetrics.Url.Percent
import PgMetrics.Url.Reader
import PgMetrics.Value.Cell
import PgMetrics.Version.Banner
import PgMetrics.Version.Basic
import PgMetrics.Version.Range
import PgMetrics.Version.Semantic
import PgMetrics.Yaml.Document
import PgMetrics.Yaml.Error
import PgMetrics.Yaml.Event
import PgMetrics.Yaml.Scalar
import PgMetrics.Yaml.Scanner
import PgMetrics.Yaml.Spot
import PgMetrics.Yaml.Tag
import PgMetrics.Yaml.Token
import PgMetrics.Proofs.Report.Failures
import PgMetrics.Proofs.Dsn.Selecting
import PgMetrics.Proofs.Url.Respelling
import PgMetrics.Proofs.Url.Paths
import PgMetrics.Proofs.Dsn.Location
import PgMetrics.Proofs.Dsn.Places
import PgMetrics.Proofs.Dsn.SelectingByUrl
import PgMetrics.Proofs.Catalog.Compiled
import PgMetrics.Proofs.Catalog.Merged
import PgMetrics.Proofs.Catalog.Overrides
import PgMetrics.Proofs.Scrape.Discovery
import PgMetrics.Proofs.Catalog.Intervals
import PgMetrics.Proofs.Version.Banners
import PgMetrics.Proofs.Command.Precedence
import PgMetrics.Proofs.Metric.ConstantLabels
import PgMetrics.Proofs.Extension.History
import PgMetrics.Proofs.Metric.Exposition
import PgMetrics.Proofs.Report.Lines
import PgMetrics.Proofs.Report.Colors
import PgMetrics.Proofs.Scrape.SettingRows
import PgMetrics.Proofs.Dsn.Values
import PgMetrics.Proofs.Dsn.Fingerprints
import PgMetrics.Proofs.Scrape.Loop
import PgMetrics.Proofs.Time.Instants
