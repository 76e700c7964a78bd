import PgMetrics.Table
import PgMetrics.Version.Basic

namespace PgMetrics

/-- What a scrape collects and how it labels it. -/
structure Options where
  /-- Only the extension document says what to scrape. -/
  disableDefaultMetrics : Bool := false
  disableSettingsMetrics : Bool := false
  autoDiscoverDatabases : Bool := false
  /-- Databases that discovery never adds. -/
  excludeDatabases : List String := []
  /-- Whether columns without a declaration give samples. -/
  emitUntypedColumns : Bool := true
  /-- Older servers are warned about. -/
  minSupportedVersion : Version := .release 9 1 0
  constantLabels : Table String := .empty
  extensionPath : Option String := none

end PgMetrics
