import PgMetrics.Command.Run
import PgMetrics.Postgres.Pool

namespace PgMetrics.Main

/-- No connection to a server is ever made here: whatever is asked of the network fails as it does where nothing
listens. -/
def network : Network IO where
  dial _ := pure (.error .unreachable)
  ping _ := pure (.error .unreachable)
  ask _ _ := pure (.error .unreachable)

def fileError : IO.Error → FileError
  | .noFileOrDirectory .. => .notFound
  | .inappropriateType .. => .notDirectory
  | _ => .isDirectory

def contentOf (path : String) : IO (Except FileError ByteArray) := do
  match ← (IO.FS.readBinFile path).toBaseIO with
  | .ok bytes => pure (.ok bytes)
  | .error e => pure (.error (fileError e))

def save (path text : String) : IO (Except FileError Unit) := do
  match ← (IO.FS.writeFile path text).toBaseIO with
  | .ok _ => pure (.ok ())
  | .error e => pure (.error (fileError e))

def logTo (detail : LogDetail) (e : LogEntry) : IO Unit :=
  if detail.includes e.level then IO.eprintln ("[" ++ e.level.name ++ "] " ++ e.message)
  else pure ()

def world (detail : LogDetail) (code : IO.Ref Nat) : World IO :=
  { Pool.servers network (logTo detail) with
    contentOf
    save
    environment := fun name => IO.getEnv name
    log := logTo detail
    clock := do pure ((← IO.monoNanosNow).toFloat / 1e9)
    pause := fun d => IO.sleep (UInt32.ofNat (d.seconds * 1000 + d.nanos / 1000000))
    print := fun text => do
      (← IO.getStdout).putStr text
      (← IO.getStdout).flush
    printError := fun text => IO.eprint text
    isTerminal := do (← IO.getStdout).isTty
    exit := fun n => code.set n }

/-- Scrape after scrape. -/
partial def forever (w : World IO) (job : ScrapeJob) : IO Unit := do
  let exporter ← job.loop.cycle w job.exporter
  job.loop.rest w
  forever w { job with exporter }

def variablesOf : List String → IO (List (String × String))
  | [] => pure []
  | name :: names => do
    let rest ← variablesOf names
    match ← IO.getEnv name with
    | some value => pure ((name, value) :: rest)
    | none => pure rest

def usage : String :=
  "usage: pgx-exporter scrape [OPTIONS] | dump-maps | init [PATH] | validate [OPTIONS]\n"

def runCommand (c : Command) : IO UInt32 := do
  let code ← IO.mkRef 0
  let w := world c.logDetail code
  match ← c.run w with
  | .endless job => do
    forever w job
    pure 0
  | .done (.ok _) => do pure (UInt32.ofNat (← code.get))
  | .done (.error f) => do
    let n ← code.get
    if n = 0 then
      IO.eprintln ("Error: " ++ f.message)
      pure 1
    else pure (UInt32.ofNat n)

end PgMetrics.Main

open PgMetrics in
def main (arguments : List String) : IO UInt32 := do
  let settings ← Main.variablesOf Arguments.variableNames
  match Command.read (fun name => settings.lookup name) arguments with
  | .ok c => Main.runCommand c
  | .error .help => do
    IO.print Main.usage
    pure 0
  | .error _ => do
    IO.eprint Main.usage
    pure 2
