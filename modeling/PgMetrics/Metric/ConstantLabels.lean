import PgMetrics.LogEntry
import PgMetrics.Table
import PgMetrics.Text.Blank
import PgMetrics.Text.Pieces

namespace PgMetrics.ConstantLabels

/-- The two halves of an entry that has exactly one equals sign. -/
def pair? (entry : List Char) : Option (List Char × List Char) :=
  match Text.pieces '=' (Text.trimChars entry) with
  | [name, value] => some (Text.trimChars name, Text.trimChars value)
  | _ => none

/-- The label of an entry, if both halves have a text. -/
def label? (entry : List Char) : Option (String × String) :=
  match pair? entry with
  | some (name, value) =>
    if name.isEmpty || value.isEmpty then none
    else some (String.ofList name, String.ofList value)
  | none => none

/-- The entries of a text; a blank text has none. -/
def entries (text : String) : List (List Char) :=
  match Text.trimChars text.toList with
  | [] => []
  | cs => Text.pieces ',' cs

/-- Of two entries with one name the later counts. -/
def read (text : String) : Table String :=
  .ofList ((entries text).filterMap label?)

/-- What is no pair is logged; a pair with an empty half is left out silently. -/
def readLog (text : String) : List LogEntry :=
  ((entries text).filter fun e => (pair? e).isNone).map fun e => .labelMalformed (String.ofList e)

end PgMetrics.ConstantLabels
