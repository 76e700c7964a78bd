import PgMetrics.Decimal.Written
import PgMetrics.Decimal.Reader
import PgMetrics.Text.Blank
import PgMetrics.Text.Utf8
import PgMetrics.Time.Duration

namespace PgMetrics

/-- A value of one row. A timestamp is `seconds + nanos / 10 ^ 9` after the start of 1970 in UTC. -/
inductive Cell where
  | null
  | bool (value : Bool)
  | int (value : Int)
  | float (value : Float)
  | text (value : String)
  | bytes (value : ByteArray)
  | timestamp (seconds : Int) (nanos : Nat)

/-- Why a cell gives no sample. `unknown` is the value that a server reports for "not known". -/
inductive CoercionError where
  | unparsable (text : String)
  | noDuration (text : String) (error : DurationError)
  | unmapped (text : String)
  | unknown
  | unsupportedType (typeName : String)
  deriving DecidableEq, Repr

def CoercionError.message : CoercionError → String
  | unparsable text => "could not parse '" ++ text ++ "'"
  | noDuration text _ => "could not parse '" ++ text ++ "'"
  | unmapped text => "no mapping for value '" ++ text ++ "'"
  | unknown => "value is unknown"
  | unsupportedType typeName => "unsupported value type '" ++ typeName ++ "'"

namespace Cell

def typeName : Cell → String
  | null => "null"
  | bool _ => "bool"
  | int _ => "int"
  | float _ => "float"
  | text _ => "text"
  | bytes _ => "bytes"
  | timestamp _ _ => "timestamp"

/-- The text that a cell holds, as text or as its bytes. -/
def asText : Cell → Option String
  | text s => some s
  | bytes b => Text.decode b
  | _ => none

/-- A number in decimal, with blanks around it allowed. -/
def parseNumber (s : String) : Except CoercionError Float :=
  match Decimal.read (Text.trimChars s.toList) with
  | some x => .ok x
  | none => .error (.unparsable s)

/-- The number of a sample. A null is not a number, and still a success. -/
def toNumber : Cell → Except CoercionError Float
  | null => .ok (Float.ofBits 0x7FF8000000000000)
  | bool b => .ok (Binary64.ofInt (if b then 1 else 0))
  | int n => .ok (Binary64.ofInt n)
  | float x => .ok x
  | timestamp seconds _ => .ok (Binary64.ofInt seconds)
  | text s => parseNumber s
  | bytes b =>
    match Text.decode b with
    | some s => parseNumber s
    | none => .error (.unparsable (String.ofList (Text.decodeReplacing b.data.toList)))

/-- The text of a label. A null is the empty text; bytes that are no text cannot be a label. -/
def toLabel : Cell → Except CoercionError String
  | null => .ok ""
  | bool b => .ok (if b then "true" else "false")
  | int n => .ok n.repr
  | float x => .ok (Decimal.write Decimal.plain x)
  | timestamp seconds _ => .ok seconds.repr
  | text s => .ok s
  | bytes b =>
    match Text.decode b with
    | some s => .ok s
    | none => .error (.unsupportedType "bytes")

theorem asText_bytes (s : String) : asText (bytes (Text.encode s)) = asText (text s) := by
  simp [asText, Text.decode_encode]

theorem toNumber_bytes (s : String) : toNumber (bytes (Text.encode s)) = toNumber (text s) := by
  simp [toNumber, Text.decode_encode]

theorem toLabel_bytes (s : String) : toLabel (bytes (Text.encode s)) = toLabel (text s) := by
  simp [toLabel, Text.decode_encode]

end Cell

end PgMetrics
