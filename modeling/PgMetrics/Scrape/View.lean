import PgMetrics.Metric.ViewMap
import PgMetrics.Scrape.Report
import PgMetrics.Session.World

namespace PgMetrics

/-- A view to be read, with the labels of its target. -/
structure View where
  name : String
  map : ViewMap
  labels : Labels
  /-- Whether columns without a declaration give samples. -/
  emitUntyped : Bool

namespace View

/-- The text of the first column of a name, empty if there is none or if its cell has no text. -/
def labelText (cells : List (String × Cell)) (column : String) : String :=
  match (cells.lookup column).map Cell.toLabel with
  | some (.ok text) => text
  | _ => ""

/-- The labels of the samples of a row. -/
def rowLabels (v : View) (cells : List (String × Cell)) : Labels :=
  v.labels ++ v.map.labels.map fun column => (column, labelText cells column)

def valueError (v : View) (column : String) (error : CoercionError) : Collected :=
  { valueErrors := [⟨v.name, column, error⟩], log := [.valueRejected v.name column error] }

/-- The cell of a declared column. A value that the server does not know is left out. -/
def declaredCell (v : View) (labels : Labels) (column : String) (d : Descriptor) (cell : Cell) :
    Collected :=
  if d.isDiscarded then {}
  else
    let converted := d.convert cell
    let log := d.conversionLog converted
    match converted with
    | .ok x => { samples := [.of d.name d.help d.kind labels x], log }
    | .error .unknown => { log }
    | .error e => { log } ++ v.valueError column e

def undeclaredCell (v : View) (labels : Labels) (column : String) (cell : Cell) : Collected :=
  if v.emitUntyped then
    match cell.toNumber with
    | .ok x =>
      { samples :=
          [.of (v.name ++ "_" ++ column) ("Unknown metric from " ++ v.name) .untyped labels x] }
    | .error e => v.valueError column e
  else {}

/-- Every cell gives one sample, one value error, or nothing. -/
def collectCell (v : View) (labels : Labels) (column : String) (cell : Cell) : Collected :=
  match v.map.columns.get? column with
  | some d => v.declaredCell labels column d cell
  | none => v.undeclaredCell labels column cell

def collectCells (v : View) (labels : Labels) : List (String × Cell) → Collected
  | [] => {}
  | (column, cell) :: cells => v.collectCell labels column cell ++ collectCells v labels cells

/-- Row after row, up to the first that does not fit the columns. -/
def collectRows (v : View) (columns : List String) : List (List Cell) → Collected
  | [] => {}
  | row :: rows =>
    if row.length = columns.length then
      let cells := columns.zip row
      v.collectCells (v.rowLabels cells) cells ++ collectRows v columns rows
    else .failed (.of (.viewRow v.name row.length columns.length))

/-- What the outcome of the view's query contributes. -/
def collect (v : View) : Except Failure Answer → Collected
  | .ok a => v.collectRows a.columns a.rows
  | .error e => .failed (e.during (.askingView v.name))

end View

end PgMetrics
