import PgMetrics.Table
import PgMetrics.Version.Range

namespace PgMetrics

/-- How a column is treated. -/
inductive Role where
  | discard
  | label
  | counter
  | gauge
  /-- Texts stand for numbers by a table. -/
  | mapped
  /-- A text writes a length of time, reported in milliseconds. -/
  | duration
  deriving DecidableEq, Repr

namespace Role

def name : Role → String
  | discard => "DISCARD"
  | label => "LABEL"
  | counter => "COUNTER"
  | gauge => "GAUGE"
  | mapped => "MAPPEDMETRIC"
  | duration => "DURATION"

def all : List Role :=
  [discard, label, counter, gauge, mapped, duration]

def read? (s : String) : Option Role :=
  all.find? (·.name == s)

theorem read?_name (r : Role) : read? r.name = some r := by
  cases r <;> decide

end Role

/-- A column of a view, and the versions that have it; without a range, all have it. -/
structure Column where
  name : String
  role : Role
  description : String
  mapping : Option (Table Float) := none
  versions : Option VersionRange := none

/-- A query for a view on some versions. -/
structure Override where
  versions : VersionRange
  query : String
  deriving DecidableEq, Repr

/-- Columns and queries by view. Of the queries of a view the first whose versions fit counts. -/
structure Catalog where
  views : Table (List Column) := .empty
  overrides : Table (List Override) := .empty

namespace Catalog

/-- Declares a view, in place of an earlier declaration. -/
def withView (c : Catalog) (view : String) (columns : List Column) : Catalog :=
  { c with views := c.views.insert view columns }

/-- Gives a view's queries, in place of earlier ones. -/
def withOverrides (c : Catalog) (view : String) (overrides : List Override) : Catalog :=
  { c with overrides := c.overrides.insert view overrides }

end Catalog

end PgMetrics
