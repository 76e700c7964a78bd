import PgMetrics.Session.Registry

namespace PgMetrics.Discovery

def query : String :=
  "SELECT datname FROM pg_database WHERE datallowconn = true AND datistemplate = false"

/-- The databases in a server's answer. -/
def names (a : Answer) : List String :=
  a.rows.filterMap fun row =>
    match row.head?.map Cell.toLabel with
    | some (.ok name) => if name.isEmpty then none else some name
    | _ => none

/-- The connection strings for those databases that are not excluded. -/
def derive (base : String) (exclude : List String) : List String → List String
  | [] => []
  | name :: names =>
    if name ∈ exclude then derive base exclude names
    else
      match Dsn.selectDatabase base name with
      | .ok dsn => dsn :: derive base exclude names
      | .error _ => derive base exclude names

/-- The databases for which there is no connection string. -/
def deriveLog (base : String) (exclude : List String) : List String → List LogEntry
  | [] => []
  | name :: names =>
    if name ∈ exclude then deriveLog base exclude names
    else
      match Dsn.selectDatabase base name with
      | .ok _ => deriveLog base exclude names
      | .error e => .databaseSkipped name e :: deriveLog base exclude names

/-- The first of each group of equal strings, in their order. -/
def distinct (seen : List String) : List String → List String
  | [] => []
  | s :: ss => if s ∈ seen then distinct seen ss else s :: distinct (s :: seen) ss

variable {m : Type → Type} [Monad m] (w : World m)

/-- The databases of the server that a connection string names. -/
def list (r : Registry) (base : String) : m (Except Failure (List String) × Registry) := do
  match ← r.acquire w base with
  | (.error e, r) => pure (.error e, r)
  | (.ok c, r) =>
    match ← w.query c.session query with
    | .error e => pure (.error (e.during .askingDatabases), r)
    | .ok a => pure (.ok (names a), r)

/-- A connection string and those it stands for besides. A server that does not answer adds nothing. -/
def expand (r : Registry) (exclude : List String) (base : String) : m (List String × Registry) := do
  match ← list w r base with
  | (.error e, r) =>
    w.log (.discoveryFailed (Dsn.redact base) e)
    pure ([base], r)
  | (.ok names, r) =>
    w.logAll (deriveLog base exclude names)
    pure (base :: derive base exclude names, r)

def expandEach (exclude : List String) : List String → Registry → m (List String × Registry)
  | [], r => pure ([], r)
  | base :: bases, r => do
    let (found, r) ← expand w r exclude base
    let (others, r) ← expandEach exclude bases r
    pure (found ++ others, r)

/-- All connection strings, each once. -/
def discover (r : Registry) (exclude bases : List String) : m (List String × Registry) := do
  let (found, r) ← expandEach w exclude bases r
  pure (distinct [] found, r)

end PgMetrics.Discovery
