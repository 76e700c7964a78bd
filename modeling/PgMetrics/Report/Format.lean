import PgMetrics.Report.Console
import PgMetrics.Report.Json

namespace PgMetrics

inductive Format where
  | console
  | json
  deriving DecidableEq, Repr

namespace Format

/-- The text of a snapshot as it is printed, which ends in a line feed. -/
def print (f : Format) (colors : Bool) (s : Snapshot) : String :=
  match f with
  | console => Console.text colors s
  | json => JsonReport.text s ++ "\n"

end Format

end PgMetrics
