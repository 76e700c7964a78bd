import PgMetrics.Dsn.Basic
import PgMetrics.Failure

namespace PgMetrics

/-- A connection string and the server that it names first. -/
structure Target where
  dsn : String
  fingerprint : String
  deriving DecidableEq, Repr

namespace Target

/-- Without a host, connections go through a local socket. -/
def defaultHost : String := "/tmp"

def defaultPort : Nat := 5432

/-- The settings of a connection string, or the failure to read it. -/
def settings (dsn : String) : Except Failure ConnectionSettings :=
  match Dsn.settings? dsn with
  | some c => .ok c
  | none =>
    .error ((Failure.of .connectionString).during (.readingConnectionString (Dsn.redact dsn)))

def hostOf (c : ConnectionSettings) : String :=
  (c.hosts.head?.map Host.text).getD defaultHost

def portOf (c : ConnectionSettings) : Nat :=
  c.ports.head?.getD defaultPort

/-- Host and port of the server that a connection string names first. -/
def fingerprintOf (dsn : String) : Except Failure String :=
  match settings dsn with
  | .error e => .error e
  | .ok c =>
    if (hostOf c).isEmpty then .error (.of (.emptyHost (Dsn.redact dsn)))
    else if portOf c = 0 then .error (.of (.zeroPort (Dsn.redact dsn)))
    else .ok (hostOf c ++ ":" ++ (portOf c).repr)

def read (dsn : String) : Except Failure Target :=
  (fingerprintOf dsn).map fun fingerprint => { dsn, fingerprint }

theorem dsn_of_read {dsn : String} {t : Target} (h : read dsn = .ok t) : t.dsn = dsn := by
  unfold read at h
  cases hf : fingerprintOf dsn with
  | error e => simp [hf, Except.map] at h
  | ok f =>
    simp only [hf, Except.map, Except.ok.injEq] at h
    exact h ▸ rfl

end Target

end PgMetrics
