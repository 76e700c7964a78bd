import PgMetrics.Text.Integer
import PgMetrics.Url.Error
import PgMetrics.Yaml.Error

namespace PgMetrics

/-- Why a file could not be read or written. -/
inductive FileError where
  | notFound
  | notDirectory
  | isDirectory
  | notText
  | nameTooLong
  | nulInName
  deriving DecidableEq, Repr

def FileError.message : FileError → String
  | notFound => "No such file or directory (os error 2)"
  | notDirectory => "Not a directory (os error 20)"
  | isDirectory => "Is a directory (os error 21)"
  | notText => "stream did not contain valid UTF-8"
  | nameTooLong => "File name too long (os error 36)"
  | nulInName => "file name contained an unexpected NUL byte"

/-- Why a database gave no answer. -/
inductive DatabaseError where
  /-- The server answered with an error of its own. -/
  | refused
  | unreachable
  /-- The settings name no server, or not one port for each. -/
  | misconfigured
  /-- The settings want encryption. -/
  | noEncryption
  /-- The settings want the login to be bound to the encryption. -/
  | notAuthenticated
  | unexpectedMessage
  deriving DecidableEq, Repr

def DatabaseError.message : DatabaseError → String
  | refused => "db error"
  | unreachable => "error connecting to server"
  | misconfigured => "invalid configuration"
  | noEncryption => "error performing TLS handshake"
  | notAuthenticated => "authentication error"
  | unexpectedMessage => "unexpected message from server"

inductive Cause where
  /-- A failure that a server words itself. -/
  | reported (text : String)
  | integer (error : Text.IntegerError)
  | file (error : FileError)
  | url (error : UrlError)
  | yaml (error : YamlError)
  | configuration
  | tooManyComponents (bound : String)
  | emptyRange
  | noVersionNumber (text : String)
  | noVersionString
  | connectionString
  | emptyHost (shown : String)
  | zeroPort (shown : String)
  | settingsRow (width : Nat)
  | viewRow (view : String) (width columns : Nat)
  | documentNotText (path : String)
  | documentUnreadable (path : String)
  | emptyPool
  | labelName (name : String)
  | labelReserved (name : String)
  | noDataSource
  | database (error : DatabaseError)
  | connecting (error : DatabaseError)
  | poolClosed
  deriving DecidableEq, Repr

def Cause.message : Cause → String
  | reported text => text
  | integer error => error.message
  | file error => error.message
  | url error => error.message
  | yaml error => error.message
  | configuration => "not a valid configuration"
  | tooManyComponents bound => "too many components in version bound '" ++ bound ++ "'"
  | emptyRange => "empty version range"
  | noVersionNumber text => "no version number found in '" ++ text ++ "'"
  | noVersionString => "server returned no version string"
  | connectionString => "invalid connection string"
  | emptyHost shown => "connection string '" ++ shown ++ "' has an empty host"
  | zeroPort shown => "connection string '" ++ shown ++ "' has an invalid port 0"
  | settingsRow width => "unexpected pg_settings row shape: " ++ width.repr ++ " columns"
  | viewRow view width columns =>
    "row of namespace " ++ view ++ " has " ++ width.repr ++ " values for " ++ columns.repr ++ " columns"
  | documentNotText path => "extension document '" ++ path ++ "' is not valid UTF-8"
  | documentUnreadable path => "extension document '" ++ path ++ "' could not be read"
  | emptyPool => "pool_max_size must be at least 1"
  | labelName name => "constant label name '" ++ name ++ "' is not a valid label name"
  | labelReserved name => "constant label name '" ++ name ++ "' is reserved"
  | noDataSource => "no data source configured"
  | database error => error.message
  | connecting error => "Error occurred while creating a new object: " ++ error.message
  | poolClosed => "Pool has been closed"

/-- What was being done when a failure arose. -/
inductive Activity where
  | readingBound (bound : String)
  | readingComponent (digits text : String)
  | readingBanner (text : String)
  | askingVersion
  | askingSettings
  | askingDatabases
  | askingView (view : String)
  | readingConnectionString (shown : String)
  | opening (shown : String)
  | validating (shown : String)
  | parsingDocument
  | readingDocument (path : String)
  | validatingDocument (path : String)
  | readingConfiguration (path : String)
  | parsingConfiguration (path : String)
  | writingConfiguration (path : String)
  | readingVariable (name path : String)
  | acquiringConnection
  | pinging
  | describingQuery
  deriving DecidableEq, Repr

def Activity.message : Activity → String
  | readingBound bound => "invalid version bound '" ++ bound ++ "'"
  | readingComponent digits text =>
    "version component '" ++ digits ++ "' in '" ++ text ++ "' is out of range"
  | readingBanner text => "parsing version string '" ++ text ++ "'"
  | askingVersion => "querying server version"
  | askingSettings => "querying pg_settings"
  | askingDatabases => "retrieving databases"
  | askingView view => "running query on namespace " ++ view
  | readingConnectionString shown => "cannot parse '" ++ shown ++ "'"
  | opening shown => "opening connection to database (" ++ shown ++ ")"
  | validating shown => "validating connection to database (" ++ shown ++ ")"
  | parsingDocument => "parsing extension document"
  | readingDocument path => "reading extension document '" ++ path ++ "'"
  | validatingDocument path => "validating extension document '" ++ path ++ "'"
  | readingConfiguration path => "reading pgx-exporter configuration file '" ++ path ++ "'"
  | parsingConfiguration path => "parsing configuration file '" ++ path ++ "'"
  | writingConfiguration path => "writing default configuration to " ++ path
  | readingVariable name path => "reading " ++ name ++ " '" ++ path ++ "'"
  | acquiringConnection => "acquiring a pooled connection"
  | pinging => "pinging database"
  | describingQuery => "describing query"

/-- A cause and the activities around it, the innermost first. -/
structure Failure where
  cause : Cause
  activities : List Activity := []
  deriving DecidableEq, Repr

namespace Failure

def of (cause : Cause) : Failure :=
  ⟨cause, []⟩

/-- The failure seen from an activity around it. -/
def during (f : Failure) (activity : Activity) : Failure :=
  ⟨f.cause, f.activities ++ [activity]⟩

/-- The cause, and then each activity. -/
def message (f : Failure) : String :=
  f.activities.foldl (fun text activity => text ++ "\n> " ++ activity.message) f.cause.message

end Failure

/-- Names the activity in every failure that passes. -/
def during {α : Type} (activity : Activity) (r : Except Failure α) : Except Failure α :=
  r.mapError (·.during activity)

end PgMetrics
