import PgMetrics.Options
import PgMetrics.Session.Registry
import PgMetrics.Time.Duration
import PgMetrics.Toml.Reader
import PgMetrics.Version.Semantic

namespace PgMetrics

/-- What is scraped, and how connections are made. A setting that is left out has its default. -/
structure Config where
  options : Options := {}
  /-- How many sessions to one target there may be at a time. -/
  poolMaxSize : Nat := 3
  connectTimeout : Duration := { seconds := 10, nanos := 0 }

namespace Config

/-- The file that is looked for if none is named. -/
def defaultFile : String := "pgx-exporter.toml"

/-- A file with every setting at its default. -/
def defaultText : String :=
  String.join ([
    "# pgx-exporter configuration",
    "#",
    "# Every setting below shows its default value.",
    "",
    "# Servers older than this version get a compatibility warning at scrape time.",
    "min_supported_version = \"9.1.0\"",
    "",
    "# Scrape every database on each configured server, not just the configured ones.",
    "auto_discover_databases = false",
    "",
    "# Databases that discovery never adds.",
    "exclude_databases = []",
    "",
    "# Skip the built-in view declarations; only the extension document is scraped.",
    "disable_default_metrics = false",
    "",
    "# Skip the pg_settings gauges.",
    "disable_settings_metrics = false",
    "",
    "# Emit view columns that have no declaration as untyped samples.",
    "emit_untyped_columns = true",
    "",
    "# Upper bound of pooled connections per target.",
    "pool_max_size = 3",
    "",
    "# How long to wait for a connection to be established.",
    "connect_timeout = \"10s\"",
    "",
    "# YAML document with additional view declarations and queries.",
    "# extend_query_path = \"queries.yaml\"",
    "",
    "# Labels attached to every sample.",
    "[constant_labels]"].map (· ++ "\n"))

def withOptions (c : Config) (change : Options → Options) : Config :=
  { c with options := change c.options }

def withLabel (c : Config) (name value : String) : Config :=
  c.withOptions fun o => { o with constantLabels := o.constantLabels.insert name value }

def stringOf? : TomlValue → Option String
  | .string s => some s
  | _ => none

/-- Whether a path is one that has been given, leads into one, or is led through by one. -/
def clashes (given : List (List String)) (path : List String) : Bool :=
  given.any fun other => other.isPrefixOf path || path.isPrefixOf other

/-- The labels of a table in braces. -/
def setLabels (given : List (List String)) (c : Config) :
    List (List String × TomlValue) → Option Config
  | [] => some c
  | (path, value) :: rest =>
    match path, value with
    | [name], .string text =>
      if clashes given path then none else setLabels (path :: given) (c.withLabel name text) rest
    | _, _ => none

/-- The configuration with one more setting, if there is such a setting and the value suits it. -/
def set (c : Config) (path : List String) (value : TomlValue) : Option Config :=
  match path, value with
  | ["min_supported_version"], .string s =>
    (Version.read? s).map fun v => c.withOptions ({ · with minSupportedVersion := v })
  | ["auto_discover_databases"], .boolean b =>
    some (c.withOptions ({ · with autoDiscoverDatabases := b }))
  | ["exclude_databases"], .array vs =>
    (vs.mapM stringOf?).map fun names => c.withOptions ({ · with excludeDatabases := names })
  | ["disable_default_metrics"], .boolean b =>
    some (c.withOptions ({ · with disableDefaultMetrics := b }))
  | ["disable_settings_metrics"], .boolean b =>
    some (c.withOptions ({ · with disableSettingsMetrics := b }))
  | ["emit_untyped_columns"], .boolean b =>
    some (c.withOptions ({ · with emitUntypedColumns := b }))
  | ["extend_query_path"], .string s =>
    some (c.withOptions ({ · with extensionPath := some s }))
  | ["pool_max_size"], .integer n =>
    if 0 ≤ n ∧ n ≤ Text.maxUInt64 then some { c with poolMaxSize := n.toNat } else none
  | ["connect_timeout"], .string s =>
    (Duration.read s).toOption.map fun d => { c with connectTimeout := d }
  | ["constant_labels"], .table settings => c.setLabels [] settings
  | ["constant_labels", name], .string s => some (c.withLabel name s)
  | _, _ => none

/-- A configuration of which some statements have been read. -/
structure Draft where
  config : Config := {}
  /-- The table that settings belong to at present. -/
  table : List String := []
  /-- The paths that have been given, but for that table. -/
  given : List (List String) := []

/-- The draft with one more statement. -/
def Draft.apply (d : Draft) : Toml.Statement → Option Draft
  | .header path =>
    let given := if d.table.isEmpty then d.given else d.table :: d.given
    if path = ["constant_labels"] ∧ !clashes given path then
      some { d with table := path, given }
    else none
  | .setting path value =>
    let path := d.table ++ path
    if clashes d.given path then none
    else (d.config.set path value).map fun config => { d with config, given := path :: d.given }

/-- The configuration that a text describes. Each setting may be given once. -/
def read (s : String) : Option Config :=
  match Toml.read s with
  | none => none
  | some statements => (statements.foldlM Draft.apply {}).map (·.config)

/-- Whether a label may have a name: a letter or underscore, and then also digits. -/
def isLabelName (name : String) : Bool :=
  match name.toList with
  | [] => false
  | c :: cs => (c.isAlpha || c == '_') && cs.all fun c => c.isAlphanum || c == '_'

def labelError (name : String) : Option Cause :=
  if !isLabelName name then some (.labelName name)
  else if name = serverLabel then some (.labelReserved name)
  else none

/-- Refuses a configuration that cannot be used. -/
def validate (c : Config) : Except Failure Config :=
  if c.poolMaxSize = 0 then .error (.of .emptyPool)
  else
    match c.options.constantLabels.keys.findSome? labelError with
    | some cause => .error (.of cause)
    | none => .ok c

/-- The configuration that the text of a file describes. -/
def ofText (path text : String) : Except Failure Config :=
  match read text with
  | none => .error ((Failure.of .configuration).during (.parsingConfiguration path))
  | some c => c.validate

/-- The path of a file in a directory. -/
def pathIn (directory file : String) : String :=
  if directory.isEmpty || directory.endsWith "/" then directory ++ file else directory ++ "/" ++ file

variable {m : Type → Type} [Monad m] (w : World m)

/-- Reads the file that is named, or else the default one, which need not exist. -/
def load (directory : String) (path : Option String) : m (Except Failure Config) := do
  let file := path.getD (pathIn directory defaultFile)
  match ← w.readText file with
  | .ok text => pure (ofText file text)
  | .error e =>
    if e = .notFound ∧ path.isNone then pure (.ok {})
    else pure (.error ((Failure.of (.file e)).during (.readingConfiguration file)))

/-- Writes the default configuration to a file. -/
def saveDefault (path : String) : m (Except Failure Unit) := do
  match ← w.save path defaultText with
  | .ok _ => pure (.ok ())
  | .error e => pure (.error ((Failure.of (.file e)).during (.writingConfiguration path)))

end Config

end PgMetrics
