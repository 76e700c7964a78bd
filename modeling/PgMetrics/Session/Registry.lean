import PgMetrics.Metric.Maps
import PgMetrics.Session.World

namespace PgMetrics

/-- The maps a connection is scraped with, and what they were built from. -/
structure MapState where
  version : Option Version := none
  maps : Maps := {}
  /-- The hash sum of the document among them, if one could be read. -/
  documentHash : Option String := none

/-- An open session to a target, with its maps. -/
structure Connection where
  session : Session
  /-- On every sample of the target. -/
  labels : Labels
  state : MapState := {}

namespace Connection

def target (c : Connection) : Target :=
  c.session.target

end Connection

/-- The name of the label that tells servers apart. -/
def serverLabel : String := "server"

/-- The server of a target, then the constant labels. -/
def Target.labels (t : Target) (constants : Table String) : Labels :=
  (serverLabel, t.fingerprint) :: constants.entries

structure Registry where
  constants : Table String := .empty
  connections : Table Connection := .empty
  /-- How many sessions have been opened. -/
  opened : Nat := 0

namespace Registry

def add (r : Registry) (dsn : String) (c : Connection) : Registry :=
  { r with connections := r.connections.insert dsn c }

def evict (r : Registry) (dsn : String) : Registry :=
  { r with connections := r.connections.erase dsn }

def size (r : Registry) : Nat :=
  r.connections.size

variable {m : Type → Type} [Monad m] (w : World m)

/-- Opens a session for a connection string that has none. -/
def openSession (r : Registry) (dsn : String) : m (Except Failure Connection × Registry) := do
  match Target.read dsn with
  | .error e => pure (.error e, r)
  | .ok target =>
    let session : Session := ⟨r.opened, target⟩
    match ← w.connect session with
    | .error e => pure (.error (e.during (.opening (Dsn.redact dsn))), r)
    | .ok _ =>
      let c : Connection := { session, labels := target.labels r.constants }
      pure (.ok c, { r.add dsn c with opened := r.opened + 1 })

/-- Hands out a connection that answers, or gives it up. -/
def probe (r : Registry) (dsn : String) (c : Connection) :
    m (Except Failure Connection × Registry) := do
  match ← w.ping c.session with
  | .ok _ => pure (.ok c, r)
  | .error e =>
    w.log (.pingFailed c.target.fingerprint e)
    w.close c.session
    pure (.error (e.during (.validating (Dsn.redact dsn))), r.evict dsn)

/-- A probed connection for a connection string: the one at hand, or else a new one. -/
def acquire (r : Registry) (dsn : String) : m (Except Failure Connection × Registry) := do
  match r.connections.get? dsn with
  | some c => r.probe w dsn c
  | none =>
    match ← r.openSession w dsn with
    | (.ok c, r) => r.probe w dsn c
    | (.error e, r) => pure (.error e, r)

def closeEach : List (String × Connection) → m Unit
  | [] => pure ()
  | (_, c) :: cs => do
    w.close c.session
    closeEach cs

def closeAll (r : Registry) : m Registry := do
  closeEach w r.connections.entries
  pure { r with connections := .empty }

end Registry

end PgMetrics
