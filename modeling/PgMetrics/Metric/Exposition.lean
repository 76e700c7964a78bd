import PgMetrics.Decimal.Written
import PgMetrics.Metric.Sample

namespace PgMetrics.Exposition

/-- Backslash, quote and line feed are written with a backslash before them. -/
def escapeChar (c : Char) : List Char :=
  if c = '\\' then ['\\', '\\']
  else if c = '"' then ['\\', '"']
  else if c = '\n' then ['\\', 'n']
  else [c]

def label (name value : String) : List Char :=
  name.toList ++ '=' :: '"' :: value.toList.flatMap escapeChar ++ ['"']

/-- Labels with commas between them. -/
def joined : Labels → List Char
  | [] => []
  | [(name, value)] => label name value
  | (name, value) :: rest => label name value ++ ',' :: joined rest

/-- Labels in braces, or nothing if there are none. -/
def labels : Labels → List Char
  | [] => []
  | ls => '\x7b' :: joined ls ++ ['\x7d']

def numbers : Decimal.NumberFormat :=
  { Decimal.plain with infinity := "+Inf", negativeInfinity := "-Inf" }

def value (x : Float) : String :=
  Decimal.write numbers x

end PgMetrics.Exposition
