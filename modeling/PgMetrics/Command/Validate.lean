import PgMetrics.Catalog.Builtin
import PgMetrics.Command.Arguments
import PgMetrics.Command.Config
import PgMetrics.Extension.Reader
import PgMetrics.Metric.Maps

namespace PgMetrics.Validation

variable {m : Type → Type} [Monad m] (w : World m)

/-- The options that a document is tried with; of the configuration only the choice of views counts. -/
def trialOptions (c : Config) : Options :=
  { disableDefaultMetrics := c.options.disableDefaultMetrics }

/-- Reads the document at a path and tries it on the oldest supported version. -/
def checkDocument (c : Config) (path : String) : m (Except Failure Unit) := do
  match ← w.readText path with
  | .error e => pure (.error ((Failure.of (.file e)).during (.readingDocument path)))
  | .ok text =>
    match Document.read text with
    | .error f => pure (.error (f.during (.validatingDocument path)))
    | .ok d => do
      w.logAll (Maps.buildLog Catalog.builtin (trialOptions c) c.options.minSupportedVersion (some d))
      pure (.ok ())

/-- Checks the configuration and its document; gives the path of the document. -/
def check (a : ValidateArguments) : m (Except Failure (Option String)) := do
  match ← Config.load w "." a.config with
  | .error f => pure (.error f)
  | .ok c =>
    match a.extensionPath.or c.options.extensionPath with
    | none => pure (.ok none)
    | some path =>
      match ← checkDocument w c path with
      | .error f => pure (.error f)
      | .ok _ => pure (.ok (some path))

/-- What is printed of a configuration that is valid. -/
def successText (a : ValidateArguments) (document : Option String) : String :=
  "Configuration file is valid\n" ++
    (match a.config with
      | some path => "Config file: " ++ path ++ "\n"
      | none => "Using default configuration (no config file given)\n") ++
    (match document with
      | some path => "Extension document: " ++ path ++ "\n"
      | none => "")

def run (a : ValidateArguments) : m (Except Failure Unit) := do
  match ← check w a with
  | .ok document =>
    w.print (successText a document)
    pure (.ok ())
  | .error f =>
    w.printError ("❌ Configuration validation failed: " ++ f.message ++ "\n")
    w.exit 1
    pure (.error f)

end PgMetrics.Validation
