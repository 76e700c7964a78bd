import PgMetrics.Scrape.Discovery
import PgMetrics.Scrape.Settings
import PgMetrics.Scrape.View
import PgMetrics.Session.Refresh

namespace PgMetrics

/-- Scrapes its targets over and over, with one registry of connections and one document. -/
structure Exporter where
  plan : Plan
  dsns : List String
  registry : Registry
  loader : Option Loader
  /-- How many scrapes there have been. No bound of 64 bits is modelled: with one scrape each nanosecond it would be
  reached after more than five hundred years. -/
  scrapes : Nat := 0
  /-- How many values could not be converted in all of them, without a bound for the same reason: each is a cell that
  has been received. -/
  valueErrors : Nat := 0

namespace Exporter

def of (catalog : Catalog) (options : Options) (dsns : List String) : Exporter where
  plan := ⟨catalog, options⟩
  dsns := dsns
  registry := { constants := options.constantLabels }
  loader := options.extensionPath.map fun path => { path }

def options (e : Exporter) : Options :=
  e.plan.options

/-- How the last load of the document went. -/
def documentStatus (e : Exporter) : Option LoadStatus :=
  e.loader.bind (·.status)

variable {m : Type → Type} [Monad m] (w : World m)

/-- Refreshes the maps of a connection, and keeps the outcome. -/
def refresh (e : Exporter) (c : Connection) :
    m (Except Failure (Option Sample) × Connection × Exporter) := do
  let (outcome, state, loader) ← e.plan.refresh w c e.loader
  let c := { c with state }
  pure (outcome, c, { e with registry := e.registry.add c.target.dsn c, loader })

/-- The report with the outcome of a refresh, which may have failed without ending the scrape. -/
def addVersion (r : TargetReport) : Except Failure (Option Sample) → TargetReport
  | .ok sample => { r with samples := r.samples ++ sample.toList }
  | .error f => { r with versionFailure := some f }

def versionLog (target : String) : Except Failure (Option Sample) → List LogEntry
  | .ok _ => []
  | .error f => [.refreshFailed target f]

/-- Reads the settings of a target. -/
def scrapeSettings (c : Connection) (r : TargetReport) : m TargetReport := do
  let found := Settings.collect c.labels (← w.query c.session Settings.query)
  w.logAll found.log
  w.logAll (found.failure.map (LogEntry.settingsFailed c.target.fingerprint)).toList
  pure (r.add Settings.view found)

/-- Reads one view of a target. -/
def scrapeView (c : Connection) (v : View) (sql : String) (r : TargetReport) : m TargetReport := do
  let found := v.collect (← w.query c.session sql)
  w.logAll found.log
  w.logAll (found.failure.map (LogEntry.viewFailed v.name c.target.fingerprint)).toList
  pure (r.add v.name found)

/-- Reads view after view; none keeps another from being read. -/
def scrapeViews (c : Connection) (emitUntyped : Bool) :
    List (String × ViewMap) → TargetReport → m TargetReport
  | [], r => pure r
  | (name, map) :: views, r => do
    match (QueryChoice.of c.state.maps.queries name).sql name with
    | none => scrapeViews c emitUntyped views r
    | some sql =>
      let r ← scrapeView w c ⟨name, map, c.labels, emitUntyped⟩ sql r
      scrapeViews c emitUntyped views r

/-- Scrapes a target that is connected. -/
def scrapeConnected (e : Exporter) (c : Connection) (r : TargetReport) :
    m (TargetReport × Exporter) := do
  let (outcome, c, e) ← e.refresh w c
  w.logAll (versionLog c.target.fingerprint outcome)
  let r := addVersion r outcome
  let r ← if e.options.disableSettingsMetrics then pure r else scrapeSettings w c r
  let r ← scrapeViews w c e.options.emitUntypedColumns c.state.maps.views.entries r
  pure (r, e)

/-- Scrapes one target. Failures are part of the report. -/
def scrapeTarget (e : Exporter) (dsn : String) : m (TargetReport × Exporter) := do
  let r : TargetReport := { target := Dsn.redact dsn }
  match ← e.registry.acquire w dsn with
  | (.ok c, registry) => scrapeConnected w { e with registry } c r
  | (.error f, registry) =>
    w.log (.openingFailed r.target f)
    pure ({ r with connectionFailure := some f }, { e with registry })

def scrapeTargets (e : Exporter) : List String → m (List TargetReport × Exporter)
  | [] => pure ([], e)
  | dsn :: dsns => do
    let (r, e) ← e.scrapeTarget w dsn
    let (rs, e) ← e.scrapeTargets dsns
    pure (r :: rs, e)

/-- The connection strings of a scrape. -/
def targets (e : Exporter) : m (List String × Exporter) := do
  if e.options.autoDiscoverDatabases then
    let (dsns, registry) ← Discovery.discover w e.registry e.options.excludeDatabases e.dsns
    pure (dsns, { e with registry })
  else pure (e.dsns, e)

/-- The exporter with a scrape counted. -/
def count (e : Exporter) (reports : List TargetReport) : Exporter :=
  { e with
    scrapes := e.scrapes + 1
    valueErrors := e.valueErrors + (reports.flatMap (·.valueErrors)).length }

def ownSample (e : Exporter) (name help : String) (kind : ValueKind) (value : Float) : Sample :=
  .of name help kind e.options.constantLabels.entries value

/-- Says whether the document could be read. -/
def documentSample (e : Exporter) (s : LoadStatus) : Sample :=
  ((e.ownSample "pg_exporter_user_queries_load_error"
      ("Whether the user queries file was loaded and parsed successfully " ++
        "(1 for error, 0 for success).")
      .gauge (Sample.flag s.failed)).withLabel "filename" s.path).withLabel "hashsum" s.hashsum

/-- What the exporter says about a scrape that it has counted. -/
def operational (e : Exporter) (reports : List TargetReport) (seconds : Float) : List Sample :=
  [ e.ownSample "pg_up"
      ("Whether the last scrape of metrics from PostgreSQL was able to connect to the server " ++
        "(1 for yes, 0 for no).")
      .gauge (Sample.flag (reports.any (·.isConnected))),
    e.ownSample "pg_exporter_last_scrape_error"
      ("Whether the last scrape of metrics from PostgreSQL resulted in an error " ++
        "(1 for error, 0 for success).")
      .gauge (Sample.flag (reports.any (·.hasFailures))),
    e.ownSample "pg_exporter_last_scrape_duration_seconds"
      "Duration of the last scrape of metrics from PostgreSQL." .gauge seconds,
    e.ownSample "pg_exporter_scrapes_total"
      "Total number of times PostgreSQL was scraped for metrics." .counter
      (Binary64.ofInt e.scrapes),
    e.ownSample "pg_exporter_value_errors_total"
      "Total number of column values that could not be converted to a sample." .counter
      (Binary64.ofInt e.valueErrors) ] ++
    (e.documentStatus.map e.documentSample).toList

/-- Scrapes all targets once. -/
def scrape (e : Exporter) : m (Snapshot × Exporter) := do
  let start ← w.clock
  let (dsns, e) ← e.targets w
  let (reports, e) ← e.scrapeTargets w dsns
  let finish ← w.clock
  let e := e.count reports
  pure (⟨reports, e.operational reports (finish - start)⟩, e)

/-- Closes every connection. -/
def close (e : Exporter) : m Exporter := do
  let registry ← e.registry.closeAll w
  pure { e with registry }

end Exporter

end PgMetrics
