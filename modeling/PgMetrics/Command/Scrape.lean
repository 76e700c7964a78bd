import PgMetrics.Catalog.Builtin
import PgMetrics.Command.Arguments
import PgMetrics.Command.Config
import PgMetrics.Command.DataSources
import PgMetrics.Metric.ConstantLabels
import PgMetrics.Scrape.Loop

namespace PgMetrics

namespace ScrapeArguments

/-- Options with the arguments over them. Switches only turn things on, or untyped columns off. -/
def apply (a : ScrapeArguments) (o : Options) : Options where
  disableDefaultMetrics := o.disableDefaultMetrics || a.disableDefaultMetrics
  disableSettingsMetrics := o.disableSettingsMetrics || a.disableSettingsMetrics
  autoDiscoverDatabases := o.autoDiscoverDatabases || a.autoDiscoverDatabases
  excludeDatabases := if a.excludeDatabases.isEmpty then o.excludeDatabases else a.excludeDatabases
  emitUntypedColumns := o.emitUntypedColumns && !a.noUntypedColumns
  minSupportedVersion := o.minSupportedVersion
  constantLabels :=
    match a.constantLabels with
    | none => o.constantLabels
    | some text => o.constantLabels.extend (ConstantLabels.read text)
  extensionPath := a.extensionPath.or o.extensionPath

def labelLog (a : ScrapeArguments) : List LogEntry :=
  match a.constantLabels with
  | none => []
  | some text => ConstantLabels.readLog text

end ScrapeArguments

/-- A scrape that is ready to begin. -/
structure ScrapeJob where
  loop : Loop
  exporter : Exporter

namespace ScrapeJob

variable {m : Type → Type} [Monad m] (w : World m)

/-- The configuration with the arguments over it. -/
def configure (a : ScrapeArguments) : m (Except Failure Config) := do
  match ← Config.load w "." a.config with
  | .error f => pure (.error f)
  | .ok c => do
    w.logAll a.labelLog
    pure { c with options := a.apply c.options }.validate

/-- The connection strings of the arguments, or else of the environment. -/
def dataSources (a : ScrapeArguments) : m (Except Failure (List String)) :=
  if a.dataSources.isEmpty then DataSources.read w else pure (.ok a.dataSources)

def useColors (mode : ColorMode) : m Bool :=
  match mode with
  | .always => pure true
  | .never => pure false
  | .auto => w.isTerminal

def noDataSourceText : String :=
  "❌ No data source configured: pass --data-source or set DATA_SOURCE_NAME or DATA_SOURCE_URI\n"

/-- Gets a scrape ready. Without a connection string there is nothing to do. -/
def prepare (a : ScrapeArguments) : m (Except Failure ScrapeJob) := do
  match ← configure w a with
  | .error f => pure (.error f)
  | .ok c =>
    match ← dataSources w a with
    | .error f => pure (.error f)
    | .ok [] => do
      w.printError noDataSourceText
      w.exit 1
      pure (.error (.of .noDataSource))
    | .ok dsns => do
      w.log (.scraping dsns.length)
      let colors ← useColors w a.color
      pure (.ok {
        loop := { format := a.format, colors, interval := a.interval, count := a.count }
        exporter := Exporter.of Catalog.builtin c.options dsns })

end ScrapeJob

end PgMetrics
