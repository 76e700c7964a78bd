import PgMetrics.Table

namespace PgMetrics

inductive ValueKind where
  | counter
  | gauge
  | untyped
  deriving DecidableEq, Repr

def ValueKind.name : ValueKind → String
  | counter => "counter"
  | gauge => "gauge"
  | untyped => "untyped"

/-- Names with values, in the order in which they are shown. -/
abbrev Labels := List (String × String)

/-- One number of one metric, told apart from others by labels. -/
structure Sample where
  name : String
  help : String
  kind : ValueKind
  labels : Labels
  value : Float

namespace Sample

def of (name help : String) (kind : ValueKind) (labels : Labels) (value : Float) : Sample :=
  { name, help, kind, labels, value }

def withLabel (s : Sample) (name value : String) : Sample :=
  { s with labels := s.labels ++ [(name, value)] }

/-- One for true and zero for false. -/
def flag (b : Bool) : Float :=
  if b then 1.0 else 0.0

end Sample

end PgMetrics
