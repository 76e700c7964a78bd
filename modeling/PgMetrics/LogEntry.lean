import PgMetrics.Failure
import PgMetrics.Value.Cell
import PgMetrics.Version.Basic

namespace PgMetrics

inductive LogLevel where
  | error
  | warn
  | info
  deriving DecidableEq, Repr

def LogLevel.name : LogLevel → String
  | error => "ERROR"
  | warn => "WARN"
  | info => "INFO"

inductive LogEntry where
  | durationRejected (text metric : String) (error : DurationError)
  | noMatchingQuery (view : String)
  | oldServer (version : Version) (target : String) (minimum : Version)
  | versionChanged (target : String) (version : Version)
  | viewReplaced (view : String)
  | viewAdded (view : String)
  | queryReplaced (view : String)
  | queryAdded (view : String)
  | pingFailed (target : String) (failure : Failure)
  | labelMalformed (entry : String)
  | discoveryFailed (shown : String) (failure : Failure)
  | databaseSkipped (database : String) (failure : Failure)
  | documentUnreadable (path : String) (error : FileError)
  | documentRejected (path : String) (failure : Failure)
  | openingFailed (shown : String) (failure : Failure)
  | refreshFailed (target : String) (failure : Failure)
  | settingsFailed (target : String) (failure : Failure)
  | viewFailed (view target : String) (failure : Failure)
  | valueRejected (view column : String) (error : CoercionError)
  | settingSkipped (name : String) (error : CoercionError)
  | scraping (targets : Nat)
  | poolEstablished (target : String)

namespace LogEntry

def level : LogEntry → LogLevel
  | durationRejected .. => .error
  | noMatchingQuery _ => .warn
  | oldServer .. => .warn
  | versionChanged .. => .info
  | viewReplaced _ => .info
  | viewAdded _ => .info
  | queryReplaced _ => .info
  | queryAdded _ => .info
  | pingFailed .. => .error
  | labelMalformed _ => .error
  | discoveryFailed .. => .error
  | databaseSkipped .. => .error
  | documentUnreadable .. => .error
  | documentRejected .. => .error
  | openingFailed .. => .error
  | refreshFailed .. => .error
  | settingsFailed .. => .error
  | viewFailed .. => .error
  | valueRejected .. => .warn
  | settingSkipped .. => .warn
  | scraping _ => .info
  | poolEstablished _ => .info

/-- The part of the program that an event belongs to. -/
def scope : LogEntry → String
  | durationRejected .. => "mapping"
  | noMatchingQuery _ => "mapping"
  | oldServer .. => "gate"
  | versionChanged .. => "gate"
  | viewReplaced _ => "gate"
  | viewAdded _ => "gate"
  | queryReplaced _ => "gate"
  | queryAdded _ => "gate"
  | pingFailed .. => "registry"
  | labelMalformed _ => "exporter"
  | discoveryFailed .. => "discovery"
  | databaseSkipped .. => "discovery"
  | documentUnreadable .. => "extension"
  | documentRejected .. => "extension"
  | openingFailed .. => "scrape"
  | refreshFailed .. => "scrape"
  | settingsFailed .. => "scrape"
  | viewFailed .. => "scrape"
  | valueRejected .. => "scrape"
  | settingSkipped .. => "settings"
  | scraping _ => "scrape"
  | poolEstablished _ => "postgres"

def message : LogEntry → String
  | durationRejected text metric error =>
    "Failed converting '" ++ text ++ "' for metric '" ++ metric ++ "': " ++ error.message
  | noMatchingQuery view =>
    "No query matched override for " ++ view ++ " - disabling metric space"
  | oldServer version target minimum =>
    "PostgreSQL version " ++ version.text ++ " on '" ++ target ++
      "' is lower than the minimum supported version " ++ minimum.text
  | versionChanged target version =>
    "Semantic version changed on '" ++ target ++ "': " ++ version.text
  | viewReplaced view => "Overriding metric " ++ view ++ " from extension document"
  | viewAdded view => "Adding new metric " ++ view ++ " from extension document"
  | queryReplaced view =>
    "Overriding query override for " ++ view ++ " from extension document"
  | queryAdded view => "Adding new query override for " ++ view ++ " from extension document"
  | pingFailed target failure =>
    "Error while pinging database '" ++ target ++ "': " ++ failure.message
  | labelMalformed entry =>
    "Wrong constant labels format '" ++ entry ++ "', should be 'key=value'"
  | discoveryFailed shown failure =>
    "Error discovering databases (" ++ shown ++ "): " ++ failure.message
  | databaseSkipped database failure =>
    "Unable to derive connection string for database '" ++ database ++ "': " ++ failure.message
  | documentUnreadable path error =>
    "Failed to read extension document '" ++ path ++ "': " ++ error.message
  | documentRejected path failure =>
    "Failed to reload extension document '" ++ path ++ "': " ++ failure.message
  | openingFailed shown failure =>
    "Error opening connection to database (" ++ shown ++ "): " ++ failure.message
  | refreshFailed target failure =>
    "Error refreshing maps for '" ++ target ++ "': " ++ failure.message
  | settingsFailed target failure =>
    "Error retrieving settings from '" ++ target ++ "': " ++ failure.message
  | viewFailed view target failure =>
    "Error scraping namespace " ++ view ++ " on '" ++ target ++ "': " ++ failure.message
  | valueRejected view column error =>
    "Unexpected error parsing column " ++ view ++ "." ++ column ++ ": " ++ error.message
  | settingSkipped name error => "Skipping setting '" ++ name ++ "': " ++ error.message
  | scraping targets => "Scraping " ++ targets.repr ++ " configured target(s)"
  | poolEstablished target =>
    "Established new database connection pool to '" ++ target ++ "'"

def line (e : LogEntry) : String :=
  e.level.name ++ " " ++ e.scope ++ ": " ++ e.message

end LogEntry

end PgMetrics
