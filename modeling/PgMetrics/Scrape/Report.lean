import PgMetrics.LogEntry
import PgMetrics.Metric.Sample

namespace PgMetrics

/-- A cell that gave no sample. -/
structure ValueError where
  view : String
  column : String
  error : CoercionError
  deriving DecidableEq, Repr

def ValueError.message (e : ValueError) : String :=
  e.view ++ "." ++ e.column ++ ": " ++ e.error.message

/-- A view that failed as a whole. -/
structure ViewFailure where
  view : String
  failure : Failure
  deriving DecidableEq, Repr

structure TargetReport where
  /-- The connection string without its password. -/
  target : String
  samples : List Sample := []
  viewFailures : List ViewFailure := []
  valueErrors : List ValueError := []
  /-- Why there was no connection; then nothing else was tried. -/
  connectionFailure : Option Failure := none
  /-- Why the version could not be found out; then the maps before were used. -/
  versionFailure : Option Failure := none

namespace TargetReport

def isConnected (r : TargetReport) : Bool :=
  r.connectionFailure.isNone

/-- Whether more failed than single values. -/
def hasFailures (r : TargetReport) : Bool :=
  r.connectionFailure.isSome || r.versionFailure.isSome || !r.viewFailures.isEmpty

end TargetReport

/-- One scrape of all targets. -/
structure Snapshot where
  reports : List TargetReport
  /-- What the exporter says about itself. -/
  operational : List Sample

namespace Snapshot

def samples (s : Snapshot) : List Sample :=
  s.reports.flatMap (·.samples) ++ s.operational

end Snapshot

/-- What one source of samples contributes to a report. -/
structure Collected where
  samples : List Sample := []
  valueErrors : List ValueError := []
  failure : Option Failure := none
  log : List LogEntry := []

namespace Collected

/-- The contribution of a source that failed before it gave anything. -/
def failed (e : Failure) : Collected :=
  { failure := some e }

/-- What comes first, then the rest with its failure. -/
def append (a b : Collected) : Collected :=
  { samples := a.samples ++ b.samples
    valueErrors := a.valueErrors ++ b.valueErrors
    failure := a.failure.or b.failure
    log := a.log ++ b.log }

instance : Append Collected := ⟨append⟩

end Collected

namespace TargetReport

/-- The report with the contribution of a view. -/
def add (r : TargetReport) (view : String) (c : Collected) : TargetReport :=
  { r with
    samples := r.samples ++ c.samples
    valueErrors := r.valueErrors ++ c.valueErrors
    viewFailures := r.viewFailures ++ (c.failure.map (ViewFailure.mk view)).toList }

end TargetReport

end PgMetrics
