import PgMetrics.Postgres.Decode
import PgMetrics.Session.World

namespace PgMetrics

/-- Where a server may listen. -/
inductive Endpoint where
  | name (host : String) (port : Nat)
  | socket (directory : List UInt8) (port : Nat)
  | address (address : Address) (port : Nat)
  deriving DecidableEq, Repr

/-- Columns by name and type, and the texts of the cells. -/
structure RawAnswer where
  columns : List (String × String)
  rows : List (List (Option String))

/-- What a network does with a request to an endpoint. -/
structure Network (m : Type → Type) where
  /-- Connects and logs in. -/
  dial : Endpoint → m (Except DatabaseError Unit)
  ping : Endpoint → m (Except DatabaseError Unit)
  ask : Endpoint → String → m (Except DatabaseError RawAnswer)

namespace RawAnswer

def decode (a : RawAnswer) : Answer where
  columns := a.columns.map (·.1)
  rows := a.rows.map fun row => (a.columns.zip row).map fun (column, text) => Cell.decode column.2 text

def firstText? (a : RawAnswer) : Option String :=
  (a.rows.head?.bind (·.head?)).join

end RawAnswer

namespace Endpoint

def ofHost (port : Nat) : Host → Endpoint
  | .name host => .name host port
  | .socket directory => .socket directory port

/-- The endpoints of hosts, of which an address takes the place of the name. -/
def zip (ports : List Nat) : Nat → List Host → List Address → List Endpoint
  | i, _ :: hosts, a :: as => .address a (portAt i) :: zip ports (i + 1) hosts as
  | i, [], a :: as => .address a (portAt i) :: zip ports (i + 1) [] as
  | i, h :: hosts, [] => ofHost (portAt i) h :: zip ports (i + 1) hosts []
  | _, [], [] => []
where
  portAt (i : Nat) : Nat := (ports[i]?.or ports.head?).getD 5432

end Endpoint

namespace ConnectionSettings

/-- The endpoints that settings lead to. There is one port for all of them, or one for each. -/
def endpoints (c : ConnectionSettings) : Except DatabaseError (List Endpoint) :=
  let hosts := c.hosts.length
  let addresses := c.addresses.length
  let count := max hosts addresses
  if count = 0 then .error .misconfigured
  else if hosts ≠ 0 ∧ addresses ≠ 0 ∧ hosts ≠ addresses then .error .misconfigured
  else if c.ports.length > 1 ∧ c.ports.length ≠ count then .error .misconfigured
  else .ok (Endpoint.zip c.ports 0 c.hosts c.addresses)

/-- Whether a server that allows or forbids writes is not the kind that is wanted. -/
def isUnwanted (c : ConnectionSettings) (readOnly : Option String) : Bool :=
  (c.session == .readWrite && readOnly == some "on") ||
    (c.session == .readOnly && readOnly == some "off")

end ConnectionSettings

/-- The sessions to one target, which can be opened as long as the pool is. -/
structure Pool where
  settings : ConnectionSettings
  isOpen : Bool := true

namespace Pool

def ofTarget (t : Target) : Except Failure Pool :=
  (Target.settings t.dsn).map fun settings => { settings }

def close (p : Pool) : Pool :=
  { p with isOpen := false }

variable {m : Type → Type} [Monad m] (n : Network m)

/-- Asks a server whether it allows writes, if that matters. -/
def checkKind (c : ConnectionSettings) (e : Endpoint) : m (Except DatabaseError Unit) := do
  if c.session = .any then pure (.ok ())
  else
    match ← n.ask e "SHOW transaction_read_only" with
    | .error err => pure (.error err)
    | .ok a =>
      if a.rows.isEmpty then pure (.error .unexpectedMessage)
      else if c.isUnwanted a.firstText? then pure (.error .unreachable)
      else pure (.ok ())

/-- Connects to an endpoint. There is no encryption, so nothing that needs it succeeds. -/
def dial (c : ConnectionSettings) (e : Endpoint) : m (Except DatabaseError Unit) := do
  match ← n.dial e with
  | .error .unreachable => pure (.error .unreachable)
  | r =>
    if c.sslMode = .require then pure (.error .noEncryption)
    else
      match r with
      | .error err => pure (.error err)
      | .ok _ =>
        if c.channelBinding = .require then pure (.error .notAuthenticated) else checkKind n c e

/-- Connects to the first endpoint that takes the connection; else the last failure counts. -/
def dialFirst (c : ConnectionSettings) (last : DatabaseError) :
    List Endpoint → m (Except DatabaseError Endpoint)
  | [] => pure (.error last)
  | e :: es => do
    match ← dial n c e with
    | .ok _ => pure (.ok e)
    | .error err => dialFirst c err es

/-- Takes a connection out of the pool. -/
def acquire (p : Pool) : m (Except Failure Endpoint) := do
  if p.isOpen then
    match p.settings.endpoints with
    | .error err => pure (refused (.connecting err))
    | .ok es =>
      match ← dialFirst n p.settings .misconfigured es with
      | .ok e => pure (.ok e)
      | .error err => pure (refused (.connecting err))
  else pure (refused .poolClosed)
where
  refused (cause : Cause) : Except Failure Endpoint :=
    .error ((Failure.of cause).during .acquiringConnection)

def ping (p : Pool) : m (Except Failure Unit) := do
  match ← p.acquire n with
  | .error f => pure (.error f)
  | .ok e =>
    match ← n.ping e with
    | .ok _ => pure (.ok ())
    | .error err => pure (.error ((Failure.of (.database err)).during .pinging))

def query (p : Pool) (sql : String) : m (Except Failure Answer) := do
  match ← p.acquire n with
  | .error f => pure (.error f)
  | .ok e =>
    match ← n.ask e sql with
    | .ok a => pure (.ok a.decode)
    | .error err => pure (.error ((Failure.of (.database err)).during .describingQuery))

/-- The servers that a network leads to. Nothing is asked of a session once it has been closed, so only the
pools that are open matter. -/
def servers (log : LogEntry → m Unit) : Servers m where
  connect s := do
    match ofTarget s.target with
    | .error f => pure (.error f)
    | .ok _ => do
      log (.poolEstablished s.target.fingerprint)
      pure (.ok ())
  ping s := do
    match ofTarget s.target with
    | .error f => pure (.error f)
    | .ok p => p.ping n
  query s sql := do
    match ofTarget s.target with
    | .error f => pure (.error f)
    | .ok p => p.query n sql
  close _ := pure ()

end Pool

end PgMetrics
