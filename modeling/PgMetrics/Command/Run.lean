import PgMetrics.Command.Scrape
import PgMetrics.Command.Validate
import PgMetrics.Report.Declarations

namespace PgMetrics

/-- How a command ends, unless it goes on for ever. -/
inductive Outcome where
  | done (result : Except Failure Unit)
  /-- The scrapes of a job go on until the program is stopped. -/
  | endless (job : ScrapeJob)

namespace Command

variable {m : Type → Type} [Monad m] (w : World m)

def runInit (path : Option String) : m (Except Failure Unit) := do
  let path := path.getD Config.defaultFile
  match ← Config.saveDefault w path with
  | .error f => pure (.error f)
  | .ok _ => do
    w.print ("Generated default configuration file: " ++ path ++ "\n")
    pure (.ok ())

/-- Scrapes as often as the arguments say, and then closes all connections. -/
def runScrape (a : ScrapeArguments) : m Outcome := do
  match ← ScrapeJob.prepare w a with
  | .error f => pure (.done (.error f))
  | .ok job =>
    match job.loop.cycles with
    | none => pure (.endless job)
    | some n => do
      let e ← job.loop.run w n job.exporter
      let _ ← e.close w
      pure (.done (.ok ()))

def run (c : Command) : m Outcome :=
  match c with
  | scrape a => runScrape w a
  | dumpMaps => do
    w.print (Declarations.text Catalog.builtin)
    pure (.done (.ok ()))
  | init path => Outcome.done <$> runInit w path
  | validate a => Outcome.done <$> Validation.run w a

/-- How much a command logs; only scrapes log at all. -/
def logDetail : Command → LogDetail
  | scrape a => a.logDetail
  | _ => .none

end Command

namespace LogDetail

/-- Whether events of a level are logged. -/
def includes : LogDetail → LogLevel → Bool
  | none, _ => false
  | error, level => level == .error
  | warn, level => level != .info
  | _, _ => true

end LogDetail

end PgMetrics
