import PgMetrics.Command.Switch
import PgMetrics.Report.Format
import PgMetrics.Time.Duration
import PgMetrics.Text.Pieces

namespace PgMetrics

/-- When reports are colored. -/
inductive ColorMode where
  | always
  | never
  /-- If they go to a terminal. -/
  | auto
  deriving DecidableEq, Repr

/-- How much is logged. -/
inductive LogDetail where
  | none
  | error
  | warn
  | info
  | debug
  | trace
  deriving DecidableEq, Repr

structure ScrapeArguments where
  dataSources : List String := []
  config : Option String := none
  format : Format := .console
  interval : Option Duration := none
  count : Option Nat := none
  autoDiscoverDatabases : Bool := false
  excludeDatabases : List String := []
  disableDefaultMetrics : Bool := false
  disableSettingsMetrics : Bool := false
  noUntypedColumns : Bool := false
  extensionPath : Option String := none
  constantLabels : Option String := none
  color : ColorMode := .auto
  logDetail : LogDetail := .info
  deriving DecidableEq, Repr

structure ValidateArguments where
  config : Option String := none
  extensionPath : Option String := none
  deriving DecidableEq, Repr

inductive Command where
  | scrape (arguments : ScrapeArguments)
  | dumpMaps
  | init (path : Option String)
  | validate (arguments : ValidateArguments)
  deriving DecidableEq, Repr

namespace Arguments

def formats : List (String × Format) :=
  [("console", .console), ("json", .json)]

def colorModes : List (String × ColorMode) :=
  [("always", .always), ("never", .never), ("auto", .auto)]

def logDetails : List (String × LogDetail) :=
  [("none", .none), ("error", .error), ("warn", .warn), ("info", .info), ("debug", .debug),
    ("trace", .trace)]

def truth : List (String × Bool) :=
  [("true", true), ("false", false)]

/-- One of a number of possible values. -/
def oneOf {β : Type} (possible : List (String × β)) (value : String) : Except UsageError β :=
  match possible.lookup value with
  | some b => .ok b
  | none => .error .invalidValue

def duration (value : String) : Except UsageError Duration :=
  (Duration.read value).mapError fun _ => .unreadableValue

def count (value : String) : Except UsageError Nat :=
  (Text.readNatural Text.maxUInt64 value.toList).mapError fun _ => .unreadableValue

def scrapeSwitches : List (Switch ScrapeArguments) := [
  { long := "data-source", repeats := true
    accept := fun v a => .ok { a with dataSources := a.dataSources ++ [v] } },
  { long := "config", short := some 'c'
    accept := fun v a => .ok { a with config := some v } },
  { long := "format"
    accept := fun v a => (oneOf formats v).map fun format => { a with format } },
  { long := "interval"
    accept := fun v a => (duration v).map fun d => { a with interval := some d } },
  { long := "count"
    accept := fun v a => (count v).map fun n => { a with count := some n } },
  { long := "auto-discover-databases", takesValue := false
    variableName := some "PG_EXPORTER_AUTO_DISCOVER_DATABASES"
    accept := fun v a => (oneOf truth v).map fun b => { a with autoDiscoverDatabases := b } },
  { long := "exclude-databases", repeats := true
    variableName := some "PG_EXPORTER_EXCLUDE_DATABASES"
    accept := fun v a =>
      .ok { a with excludeDatabases := a.excludeDatabases ++ Text.split ',' v } },
  { long := "disable-default-metrics", takesValue := false
    variableName := some "PG_EXPORTER_DISABLE_DEFAULT_METRICS"
    accept := fun v a => (oneOf truth v).map fun b => { a with disableDefaultMetrics := b } },
  { long := "disable-settings-metrics", takesValue := false
    variableName := some "PG_EXPORTER_DISABLE_SETTINGS_METRICS"
    accept := fun v a => (oneOf truth v).map fun b => { a with disableSettingsMetrics := b } },
  { long := "no-untyped-columns", takesValue := false
    accept := fun v a => (oneOf truth v).map fun b => { a with noUntypedColumns := b } },
  { long := "extend-query-path"
    variableName := some "PG_EXPORTER_EXTEND_QUERY_PATH"
    accept := fun v a => .ok { a with extensionPath := some v } },
  { long := "constant-labels"
    variableName := some "PG_EXPORTER_CONSTANT_LABELS"
    accept := fun v a => .ok { a with constantLabels := some v } },
  { long := "color"
    accept := fun v a => (oneOf colorModes v).map fun color => { a with color } },
  { long := "log-level"
    accept := fun v a => (oneOf logDetails v).map fun logDetail => { a with logDetail } }]

def validateSwitches : List (Switch ValidateArguments) := [
  { long := "config", short := some 'c'
    accept := fun v a => .ok { a with config := some v } },
  { long := "extend-query-path"
    accept := fun v a => .ok { a with extensionPath := some v } }]

/-- The path of the file to write stands by itself. -/
def outputPath : Switch (Option String) :=
  { long := "path", accept := fun v _ => .ok (some v) }

/-- The variables that switches may be set by. -/
def variableNames : List String :=
  scrapeSwitches.filterMap (·.variableName)

/-- The arguments of a scrape. A count needs an interval. -/
def scrape (lookup : String → Option String) (arguments : List String) :
    Except UsageError ScrapeArguments :=
  match Switch.read scrapeSwitches none lookup arguments {} with
  | .error e => .error e
  | .ok p =>
    if p.given.contains "count" && !p.given.contains "interval" then .error .missingArgument
    else .ok p.values

end Arguments

/-- The command that arguments give. -/
def Command.read (lookup : String → Option String) : List String → Except UsageError Command
  | "scrape" :: arguments => (Arguments.scrape lookup arguments).map .scrape
  | "dump-maps" :: arguments =>
    (Switch.read [] none lookup arguments ()).map fun _ => .dumpMaps
  | "init" :: arguments =>
    (Switch.read [] (some Arguments.outputPath) lookup arguments none).map fun p =>
      .init p.values
  | "validate" :: arguments =>
    (Switch.read Arguments.validateSwitches none lookup arguments {}).map fun p =>
      .validate p.values
  | _ => .error .unknownCommand

end PgMetrics
