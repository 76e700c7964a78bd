import PgMetrics.Extension.Loader
import PgMetrics.Session.Registry
import PgMetrics.Version.Banner

namespace PgMetrics

/-- The text that the version was read from, and the version. -/
structure Banner where
  text : String
  version : Version
  deriving DecidableEq, Repr

namespace Banner

def query : String := "SELECT version();"

/-- The banner in a server's answer. -/
def ofAnswer (a : Answer) : Except Failure Banner :=
  match a.firstCell?.map Cell.toLabel with
  | some (.ok text) =>
    if text.isEmpty then .error (.of .noVersionString)
    else during (.readingBanner text) ((Version.ofBanner text).map fun version => { text, version })
  | _ => .error (.of .noVersionString)

variable {m : Type → Type} [Monad m]

def ask (w : World m) (s : Session) : m (Except Failure Banner) := do
  match ← w.query s query with
  | .ok a => pure (ofAnswer a)
  | .error e => pure (.error (e.during .askingVersion))

/-- The sample that says which version a server has. -/
def sample (b : Banner) (labels : Labels) : Sample :=
  .of "pg_static" "Version string as reported by postgres" .untyped
    (labels ++ [("short_version", b.version.text), ("version", b.text)]) 1.0

end Banner

namespace MapState

/-- Whether maps were built for another version or another content of the document. -/
def isStale (s : MapState) (version : Version) (documentHash : Option String) : Bool :=
  s.version != some version || s.documentHash != documentHash

end MapState

/-- What is scraped and how: the same for every target. -/
structure Plan where
  catalog : Catalog
  options : Options

namespace Plan

/-- The maps for a version, with the document of a loader. -/
def mapsFor (p : Plan) (version : Version) (loader : Option Loader) : Maps :=
  Maps.build p.catalog p.options version (loader.bind (·.lastGood))

/-- The loader after it has taken the content of its file. -/
def reload (loader : Option Loader) (content : Option Content) : Option Loader :=
  match content with
  | some c => loader.map (·.load c)
  | none => loader

/-- The maps and the loader for a version and the present content of the document. -/
def advance (p : Plan) (state : MapState) (loader : Option Loader) (version : Version)
    (content : Option Content) : MapState × Option Loader :=
  let hash := content.bind Content.hashsum?
  if state.isStale version hash then
    let loader := reload loader content
    ({ version := some version, maps := p.mapsFor version loader, documentHash := hash }, loader)
  else (state, loader)

def oldServerLog (p : Plan) (target : String) (version : Version) : List LogEntry :=
  if !p.options.disableDefaultMetrics && version.before p.options.minSupportedVersion then
    [.oldServer version target p.options.minSupportedVersion]
  else []

/-- What is logged while the maps are built anew. -/
def rebuildLog (p : Plan) (target : String) (state : MapState) (loader : Option Loader)
    (version : Version) (content : Option Content) : List LogEntry :=
  (if state.version = some version then [] else [.versionChanged target version]) ++
    (match loader, content with
      | some l, some c => Loader.loadLog l.path c
      | _, _ => []) ++
    Maps.buildLog p.catalog p.options version ((reload loader content).bind (·.lastGood))

def advanceLog (p : Plan) (target : String) (state : MapState) (loader : Option Loader)
    (version : Version) (content : Option Content) : List LogEntry :=
  if state.isStale version (content.bind Content.hashsum?) then
    p.rebuildLog target state loader version content
  else []

variable {m : Type → Type} [Monad m] (w : World m)

/-- The content of the document's file, if there is a document. -/
def contentOf : Option Loader → m (Option Content)
  | none => pure none
  | some l => do
    let c ← Loader.read w l.path
    pure (some c)

/-- Asks for the version and brings the maps up to date with it; a refresh that fails changes nothing. The sample says
which version it is. -/
def refresh (p : Plan) (c : Connection) (loader : Option Loader) :
    m (Except Failure (Option Sample) × MapState × Option Loader) := do
  match ← Banner.ask w c.session with
  | .error e => pure (.error e, c.state, loader)
  | .ok banner =>
    let target := c.target.fingerprint
    w.logAll (p.oldServerLog target banner.version)
    let content ← contentOf w loader
    w.logAll (p.advanceLog target c.state loader banner.version content)
    let sample :=
      if p.options.disableDefaultMetrics then none else some (banner.sample c.labels)
    pure (.ok sample, p.advance c.state loader banner.version content)

end Plan

end PgMetrics
