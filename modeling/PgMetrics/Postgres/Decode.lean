import PgMetrics.Text.Integer
import PgMetrics.Time.Timestamp
import PgMetrics.Value.Cell

namespace PgMetrics.Cell

def ofBool (s : String) : Cell :=
  if s = "t" then .bool true else if s = "f" then .bool false else .text s

def ofInteger (s : String) : Cell :=
  match Text.readInteger Text.maxInt64 s.toList with
  | .ok n => .int n
  | .error _ => .text s

def ofDecimal (s : String) : Cell :=
  match Decimal.read s.toList with
  | some x => .float x
  | none => .text s

def ofTimestamp (s : String) : Option Timestamp → Cell
  | some t => .timestamp t.seconds t.nanos
  | none => .text s

/-- The cell that a text stands for in a column of a type. A text that is none of the type stays a text. -/
def decodeText (typeName s : String) : Cell :=
  if typeName = "bool" then ofBool s
  else if typeName ∈ ["int2", "int4", "int8", "oid", "xid"] then ofInteger s
  else if typeName ∈ ["float4", "float8", "numeric"] then ofDecimal s
  else if typeName = "timestamptz" then ofTimestamp s (Timestamp.readWithOffset s)
  else if typeName = "timestamp" then ofTimestamp s (Timestamp.read s)
  else .text s

/-- The cell of a column of a type; a null has no text. -/
def decode (typeName : String) : Option String → Cell
  | none => .null
  | some s => decodeText typeName s

end PgMetrics.Cell
