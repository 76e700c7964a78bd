import PgMetrics.Dsn.Target
import PgMetrics.LogEntry

namespace PgMetrics

/-- An open session; numbers tell apart the sessions that one target has had. -/
structure Session where
  number : Nat
  target : Target
  deriving DecidableEq, Repr

/-- What a query answers. -/
structure Answer where
  columns : List String
  rows : List (List Cell)

namespace Answer

def firstCell? (a : Answer) : Option Cell :=
  match a.rows with
  | (cell :: _) :: _ => some cell
  | _ => none

end Answer

/-- What a session may be asked for. -/
structure Servers (m : Type → Type) where
  connect : Session → m (Except Failure Unit)
  ping : Session → m (Except Failure Unit)
  query : Session → String → m (Except Failure Answer)
  close : Session → m Unit

/-- The requests that the program makes, each with its kind of reply. -/
structure World (m : Type → Type) extends Servers m where
  contentOf : String → m (Except FileError ByteArray)
  save : String → String → m (Except FileError Unit)
  environment : String → m (Option String)
  log : LogEntry → m Unit
  /-- Seconds since some fixed time. -/
  clock : m Float
  pause : Duration → m Unit
  print : String → m Unit
  printError : String → m Unit
  /-- Whether what is printed goes to a terminal. -/
  isTerminal : m Bool
  /-- Asks for an exit code once the program has ended. -/
  exit : Nat → m Unit

namespace World

variable {m : Type → Type} [Monad m]

def logAll (w : World m) : List LogEntry → m Unit
  | [] => pure ()
  | e :: es => do
    w.log e
    w.logAll es

/-- A file that must hold text. -/
def readText (w : World m) (path : String) : m (Except FileError String) := do
  match ← w.contentOf path with
  | .error e => pure (.error e)
  | .ok bytes =>
    match Text.decode bytes with
    | some s => pure (.ok s)
    | none => pure (.error .notText)

end World

end PgMetrics
