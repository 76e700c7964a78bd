import PgMetrics.Metric.Exposition
import PgMetrics.Scrape.Report

namespace PgMetrics

inductive JsonValue where
  | bool (value : Bool)
  | number (value : Float)
  | string (value : String)
  | array (elements : List JsonValue)
  | object (fields : List (String × JsonValue))

namespace JsonValue

def ofTable (fields : Table JsonValue) : JsonValue :=
  object fields.entries

/-- An object; of two fields of one name the later counts. -/
def ofFields (fields : List (String × JsonValue)) : JsonValue :=
  ofTable (.ofList fields)

def hexDigit (n : Nat) : Char :=
  (Nat.toDigits 16 n).headD '0'

def escapeChar (c : Char) : List Char :=
  if c = '"' then ['\\', '"']
  else if c = '\\' then ['\\', '\\']
  else if c = '\n' then ['\\', 'n']
  else if c = '\r' then ['\\', 'r']
  else if c = '\t' then ['\\', 't']
  else if c = '\x08' then ['\\', 'b']
  else if c = '\x0c' then ['\\', 'f']
  else if c.toNat < 0x20 then
    ['\\', 'u', '0', '0', hexDigit (c.toNat / 16), hexDigit (c.toNat % 16)]
  else [c]

def quoted (s : String) : String :=
  String.ofList ('"' :: s.toList.flatMap escapeChar ++ ['"'])

/-- Numbers below `1e-5` and from `1e16` on are written with a power of ten. -/
def numbers : Decimal.NumberFormat where
  tie := .even
  positional := some (-5, 16)
  wholeHasPoint := true
  nan := "null"
  infinity := "null"
  negativeInfinity := "null"

/-- The start of a line. -/
def lineStart (indent : Nat) : String :=
  "\n" ++ String.ofList (List.replicate (2 * indent) ' ')

/-- Parts between brackets, each in a line of its own. -/
def bracketed (indent : Nat) (left right : String) : List String → String
  | [] => left ++ right
  | parts =>
    left ++ lineStart (indent + 1) ++ ("," ++ lineStart (indent + 1)).intercalate parts ++
      lineStart indent ++ right

mutual

/-- The text of a value in lines that are indented so far. -/
def write (indent : Nat) : JsonValue → String
  | bool b => if b then "true" else "false"
  | number x => Decimal.write numbers x
  | string s => quoted s
  | array elements => bracketed indent "[" "]" (writeElements (indent + 1) elements)
  | object fields => bracketed indent "\x7b" "\x7d" (writeFields (indent + 1) fields)

def writeElements (indent : Nat) : List JsonValue → List String
  | [] => []
  | v :: vs => write indent v :: writeElements indent vs

def writeFields (indent : Nat) : List (String × JsonValue) → List String
  | [] => []
  | (name, v) :: fields => (quoted name ++ ": " ++ write indent v) :: writeFields indent fields

end

def text (v : JsonValue) : String :=
  v.write 0

end JsonValue

namespace JsonReport

open JsonValue

/-- Numbers that are not finite are written as texts. -/
def value (x : Float) : JsonValue :=
  match Binary64.ofFloat x with
  | .finite .. => number x
  | _ => string (Exposition.value x)

def sample (s : Sample) : JsonValue :=
  ofFields [
    ("name", string s.name),
    ("help", string s.help),
    ("kind", string s.kind.name),
    ("labels", ofFields (s.labels.map fun (name, text) => (name, string text))),
    ("value", value s.value)]

def samples (ss : List Sample) : JsonValue :=
  array (ss.map sample)

/-- The failures of a target, kind by kind; what has none is left out. -/
def errors (r : TargetReport) : JsonValue :=
  ofFields (
    (r.connectionFailure.map fun e => ("connection", string e.message)).toList ++
    (r.versionFailure.map fun e => ("version", string e.message)).toList ++
    (if r.viewFailures.isEmpty then []
      else
        [("namespaces",
          ofFields (r.viewFailures.map fun e => (e.view, string e.failure.message)))]) ++
    (if r.valueErrors.isEmpty then []
      else [("values", array (r.valueErrors.map fun e => string e.message))]))

def target (r : TargetReport) : JsonValue :=
  ofFields [
    ("target", string r.target),
    ("connected", bool r.isConnected),
    ("errors", errors r),
    ("samples", samples r.samples)]

def document (s : Snapshot) : JsonValue :=
  ofFields [
    ("targets", array (s.reports.map target)),
    ("operational", samples s.operational)]

def text (s : Snapshot) : String :=
  (document s).text

end JsonReport

end PgMetrics
