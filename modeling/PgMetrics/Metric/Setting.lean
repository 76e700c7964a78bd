import PgMetrics.LogEntry
import PgMetrics.Metric.Sample
import PgMetrics.Value.Cell

namespace PgMetrics

/-- A row of the server's table of settings. -/
structure Setting where
  name : String
  setting : String
  unit : String
  description : String
  type : String
  deriving DecidableEq, Repr

namespace Setting

/-- What one of a unit is in the unit that is reported. -/
def factor? (unit : String) : Option (String × Float) :=
  match unit with
  | "ms" => some ("seconds", 1.0 / 1000.0)
  | "s" => some ("seconds", 1.0)
  | "min" => some ("seconds", 60.0)
  | "h" => some ("seconds", 3600.0)
  | "d" => some ("seconds", 86400.0)
  | "B" => some ("bytes", 1.0)
  | "kB" => some ("bytes", 1024.0)
  | "MB" => some ("bytes", 1048576.0)
  | "GB" => some ("bytes", 1073741824.0)
  | "TB" => some ("bytes", 1099511627776.0)
  | "8kB" => some ("bytes", 8192.0)
  | "16kB" => some ("bytes", 16384.0)
  | "32kB" => some ("bytes", 32768.0)
  | "16MB" => some ("bytes", 16777216.0)
  | "32MB" => some ("bytes", 33554432.0)
  | "64MB" => some ("bytes", 67108864.0)
  | _ => none

/-- The distance from one to the next double. -/
def epsilon : Float := Float.ofBits 0x3CB0000000000000

/-- A value of minus one says "disabled" or "the default" and is not scaled. -/
def scale (factor value : Float) : Float :=
  if (value + 1.0).abs < epsilon then value else value * factor

/-- The number of a setting, and the unit it is reported in. -/
def normalize (s : Setting) : Except CoercionError (Float × Option String) :=
  match Cell.parseNumber s.setting with
  | .error e => .error e
  | .ok value =>
    if s.unit = "" then .ok (value, none)
    else
      match factor? s.unit with
      | some (unit, factor) => .ok (scale factor value, some unit)
      | none => .error (.unparsable ("unit '" ++ s.unit ++ "'"))

def metricName (s : Setting) : String :=
  String.ofList (s.name.toList.map fun c => if c = '.' then '_' else c)

def gauge (s : Setting) (labels : Labels) (value : Float) : Option String → Sample
  | none => .of ("pg_settings_" ++ s.metricName) s.description .gauge labels value
  | some unit =>
    .of ("pg_settings_" ++ s.metricName ++ "_" ++ unit)
      (s.description ++ " [Units converted to " ++ unit ++ ".]") .gauge labels value

/-- The gauge of a setting, if its type has numbers. -/
def sample (s : Setting) (labels : Labels) : Except CoercionError Sample :=
  if s.type = "bool" then .ok (s.gauge labels (Sample.flag (s.setting == "on")) none)
  else if s.type = "integer" ∨ s.type = "real" then
    s.normalize.map fun (value, unit) => s.gauge labels value unit
  else .error (.unparsable s.type)

end Setting

end PgMetrics
