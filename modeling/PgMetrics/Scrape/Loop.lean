import PgMetrics.Report.Format
import PgMetrics.Scrape.Exporter

namespace PgMetrics

/-- How scrapes are shown and repeated. -/
structure Loop where
  format : Format
  colors : Bool
  /-- The pause between two scrapes; without one there is a single scrape. -/
  interval : Option Duration
  /-- How many scrapes there are, if they are to end. -/
  count : Option Nat

namespace Loop

/-- How many scrapes there are, if they end. At least one is always made. -/
def cycles (l : Loop) : Option Nat :=
  match l.interval with
  | none => some 1
  | some _ => l.count.map (max 1)

variable {m : Type → Type} [Monad m] (w : World m)

/-- One scrape and its report. -/
def cycle (l : Loop) (e : Exporter) : m Exporter := do
  let (s, e) ← e.scrape w
  w.print (l.format.print l.colors s)
  pure e

def rest (l : Loop) : m Unit :=
  match l.interval with
  | none => pure ()
  | some d => w.pause d

/-- The pause after a number of scrapes, unless they are all. -/
def pauseAfter (l : Loop) (done : Nat) : Option Duration :=
  l.interval.filter fun _ => !l.count.any (· ≤ done)

/-- Scrapes after those that are done, until they are all or as many as a bound. -/
def runFrom (l : Loop) (done : Nat) : (bound : Nat) → Exporter → m Exporter
  | 0, e => pure e
  | bound + 1, e => do
    let e ← l.cycle w e
    match l.pauseAfter (done + 1) with
    | none => pure e
    | some d => do
      w.pause d
      l.runFrom (done + 1) bound e

def run (l : Loop) (bound : Nat) (e : Exporter) : m Exporter :=
  l.runFrom w 0 bound e

end Loop

end PgMetrics
