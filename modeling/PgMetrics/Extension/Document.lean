import PgMetrics.Catalog.Basic

namespace PgMetrics

structure DocumentColumn where
  role : Role
  description : String := ""
  deriving DecidableEq, Repr

/-- A view's query and its columns, in groups that keep the order of the document. -/
structure DocumentView where
  query : Option String := none
  metrics : List (Table DocumentColumn) := []

/-- A document that adds views to the catalog. Tables of values and ranges of versions it cannot give. -/
structure Document where
  views : Table DocumentView := .empty

namespace Document

def columnsOf (view : DocumentView) : List Column :=
  view.metrics.flatMap fun group =>
    group.entries.map fun (name, c) =>
      { name, role := c.role, description := c.description }

/-- The columns of each view that lists metrics. -/
def declarations (d : Document) : List (String × List Column) :=
  (d.views.entries.filter fun (_, view) => !view.metrics.isEmpty).map fun (name, view) =>
    (name, columnsOf view)

/-- The query of each view that gives one. -/
def queries (d : Document) : List (String × String) :=
  d.views.entries.filterMap fun (name, view) => view.query.map fun query => (name, query)

end Document

end PgMetrics
