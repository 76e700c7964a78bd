import PgMetrics.Catalog.Basic
import PgMetrics.LogEntry
import PgMetrics.Metric.Sample

namespace PgMetrics

inductive Conversion where
  | discard
  | numeric
  /-- The text is looked up in a table. -/
  | mapped (table : Table Float)
  /-- The text writes a length of time; `-1` says that it is not known. -/
  | duration

structure Descriptor where
  name : String
  help : String
  kind : ValueKind
  conversion : Conversion

namespace Descriptor

/-- Belongs to no metric. -/
def discarded : Descriptor :=
  { name := "", help := "", kind := .untyped, conversion := .discard }

def isDiscarded (d : Descriptor) : Bool :=
  match d.conversion with
  | .discard => true
  | _ => false

/-- The text of a cell; other cells have no place where a text is wanted. -/
def textOf (cell : Cell) : Except CoercionError String :=
  match cell.asText with
  | some s => .ok s
  | none => .error (.unsupportedType cell.typeName)

def lookUp (table : Table Float) (text : String) : Except CoercionError Float :=
  match table.get? text with
  | some x => .ok x
  | none => .error (.unmapped text)

def milliseconds (text : String) : Except CoercionError Float :=
  if text = "-1" then .error .unknown
  else
    match Duration.read (Text.trim text) with
    | .ok d => .ok d.milliseconds
    | .error e => .error (.noDuration text e)

/-- The number that a cell stands for. -/
def convert (d : Descriptor) (cell : Cell) : Except CoercionError Float :=
  match d.conversion with
  | .discard => .ok (Float.ofBits 0x7FF8000000000000)
  | .numeric => cell.toNumber
  | .mapped table =>
    match textOf cell with
    | .ok text => lookUp table text
    | .error e => .error e
  | .duration =>
    match textOf cell with
    | .ok text => milliseconds text
    | .error e => .error e

/-- A text that writes no length of time is logged with the reason. -/
def conversionLog (d : Descriptor) : Except CoercionError Float → List LogEntry
  | .error (.noDuration text error) => [.durationRejected text d.name error]
  | _ => []

/-- The descriptor of a column. Versions without the column, and roles that give no number, discard it. -/
def compile (view : String) (version : Version) (column : Column) : Descriptor :=
  let name := view ++ "_" ++ column.name
  if column.versions.any fun range => !range.accepts version then discarded
  else
    match column.role with
    | .discard => discarded
    | .label => discarded
    | .counter => ⟨name, column.description, .counter, .numeric⟩
    | .gauge => ⟨name, column.description, .gauge, .numeric⟩
    | .mapped => ⟨name, column.description, .gauge, .mapped (column.mapping.getD .empty)⟩
    | .duration => ⟨name ++ "_milliseconds", column.description, .gauge, .duration⟩

theorem convert_bytes (d : Descriptor) (s : String) :
    d.convert (.bytes (Text.encode s)) = d.convert (.text s) := by
  unfold convert
  split
  · rfl
  · exact Cell.toNumber_bytes s
  · simp [textOf, Cell.asText_bytes]
    rfl
  · simp [textOf, Cell.asText_bytes]
    rfl

end Descriptor

end PgMetrics
