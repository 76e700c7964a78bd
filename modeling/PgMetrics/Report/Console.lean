import PgMetrics.Metric.Exposition
import PgMetrics.Scrape.Report

namespace PgMetrics.Console

inductive Style where
  | bold
  | red
  | yellow
  | cyan
  deriving DecidableEq, Repr

def escapeSequence (code : String) : String :=
  "\x1b[" ++ code ++ "m"

namespace Style

def opening : Style → String
  | bold => escapeSequence "1"
  | red => escapeSequence "31"
  | yellow => escapeSequence "33"
  | cyan => escapeSequence "36"

def closing : Style → String
  | bold => escapeSequence "0"
  | red => escapeSequence "39"
  | yellow => escapeSequence "39"
  | cyan => escapeSequence "39"

end Style

/-- Colors are put around a text and change nothing else. -/
def styled (colors : Bool) (style : Style) (s : String) : String :=
  if colors then style.opening ++ s ++ style.closing else s

def failureLine (colors : Bool) (text : String) : String :=
  styled colors .red ("  🗙 " ++ text) ++ "\n"

def valueErrorLine (colors : Bool) (e : ValueError) : String :=
  styled colors .yellow ("  ⚠ " ++ e.message) ++ "\n"

def sampleLine (colors : Bool) (s : Sample) : String :=
  "  " ++ styled colors .cyan s.name ++ String.ofList (Exposition.labels s.labels) ++ " " ++
    Exposition.value s.value ++ "\n"

def headLine (colors : Bool) (s : String) : String :=
  styled colors .bold s ++ "\n"

/-- What follows the name of a target. Without a connection there is nothing but the reason. -/
def detailLines (colors : Bool) (r : TargetReport) : List String :=
  match r.connectionFailure with
  | some e => [failureLine colors ("connection failed: " ++ e.message)]
  | none =>
    (r.versionFailure.map fun e =>
        failureLine colors ("version check failed: " ++ e.message)).toList ++
      (r.viewFailures.map fun e =>
        failureLine colors ("namespace " ++ e.view ++ " failed: " ++ e.failure.message)) ++
      r.valueErrors.map (valueErrorLine colors) ++
      r.samples.map (sampleLine colors)

def reportLines (colors : Bool) (r : TargetReport) : List String :=
  headLine colors r.target :: detailLines colors r ++ ["\n"]

def text (colors : Bool) (s : Snapshot) : String :=
  String.join (s.reports.flatMap (reportLines colors) ++
    headLine colors "Exporter" :: s.operational.map (sampleLine colors))

end PgMetrics.Console
