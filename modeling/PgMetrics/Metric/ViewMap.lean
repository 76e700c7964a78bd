import PgMetrics.Metric.Descriptor

namespace PgMetrics

/-- Label columns in the order of their declaration, and a descriptor for every column. -/
structure ViewMap where
  labels : List String
  columns : Table Descriptor

namespace ViewMap

/-- Of two declarations of a column the later gives the descriptor; every label column counts. -/
def compile (view : String) (version : Version) (columns : List Column) : ViewMap where
  labels := (columns.filter (·.role == .label)).map (·.name)
  columns := .ofList (columns.map fun c => (c.name, Descriptor.compile view version c))

theorem get?_compile (view : String) (version : Version) (columns : List Column) (name : String) :
    (compile view version columns).columns.get? name =
      (columns.reverse.find? (·.name == name)).map (Descriptor.compile view version) :=
  Table.get?_ofList_map ..

end ViewMap

/-- Of two declarations of a view the later counts. -/
def compileViews (views : List (String × List Column)) (version : Version) : Table ViewMap :=
  .ofList (views.map fun (view, columns) => (view, ViewMap.compile view version columns))

theorem get?_compileViews (views : List (String × List Column)) (version : Version) (view : String) :
    (compileViews views version).get? view =
      (views.reverse.lookup view).map (ViewMap.compile view version) := by
  rw [compileViews, Table.get?_ofList, ← List.map_reverse]
  exact Table.lookup_mapValues (fun view columns => ViewMap.compile view version columns) ..

/-- Which query a view is read with. -/
inductive QueryChoice where
  /-- No query makes sense on this version. -/
  | disabled
  | override (sql : String)
  /-- All columns of the view. -/
  | default
  deriving DecidableEq, Repr

namespace QueryChoice

def sql (view : String) : QueryChoice → Option String
  | disabled => none
  | override sql => some sql
  | default => some ("SELECT * FROM " ++ view ++ ";")

/-- The choice that resolved queries make: an empty query disables the view. -/
def of (queries : Table String) (view : String) : QueryChoice :=
  match queries.get? view with
  | none => default
  | some sql => if sql.isEmpty then disabled else override sql

end QueryChoice

namespace Override

/-- The query of the first override whose versions fit. -/
def resolve? (version : Version) (overrides : List Override) : Option String :=
  (overrides.find? (·.versions.accepts version)).map (·.query)

/-- The query of each view that has overrides, empty if none fits. -/
def resolveAll (overrides : Table (List Override)) (version : Version) : Table String :=
  overrides.mapValues fun _ os => (resolve? version os).getD ""

theorem get?_resolveAll (overrides : Table (List Override)) (version : Version) (view : String) :
    (resolveAll overrides version).get? view =
      (overrides.get? view).map fun os => (resolve? version os).getD "" :=
  Table.get?_mapValues ..

/-- The views whose overrides leave them without a query. -/
def unresolved (overrides : Table (List Override)) (version : Version) : List String :=
  (overrides.entries.filter fun (_, os) => (resolve? version os).isNone).map (·.1)

end Override

end PgMetrics
