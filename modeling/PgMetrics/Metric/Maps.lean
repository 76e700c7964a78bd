import PgMetrics.Extension.Document
import PgMetrics.Metric.ViewMap
import PgMetrics.Options

namespace PgMetrics

/-- All that one version of a server is scraped with: the compiled views and the queries that are not the default. -/
structure Maps where
  views : Table ViewMap := .empty
  queries : Table String := .empty

namespace Maps

/-- The maps of the catalog alone. -/
def ofCatalog (catalog : Catalog) (options : Options) (version : Version) : Maps :=
  if options.disableDefaultMetrics then {}
  else
    { views := compileViews catalog.views.entries version
      queries := Override.resolveAll catalog.overrides version }

/-- The maps of the catalog with those of a document over them. -/
def build (catalog : Catalog) (options : Options) (version : Version) :
    Option Document → Maps
  | none => ofCatalog catalog options version
  | some document =>
    let base := ofCatalog catalog options version
    { views := base.views.extend (compileViews document.declarations version)
      queries := base.queries.extend (.ofList document.queries) }

def catalogLog (catalog : Catalog) (options : Options) (version : Version) : List LogEntry :=
  if options.disableDefaultMetrics then []
  else (Override.unresolved catalog.overrides version).map .noMatchingQuery

/-- What a document does to the maps below it. -/
def documentLog (base : Maps) (document : Document) : List LogEntry :=
  (document.declarations.map fun (view, _) =>
      if base.views.contains view then .viewReplaced view else .viewAdded view) ++
    document.queries.map fun (view, _) =>
      if base.queries.contains view then .queryReplaced view else .queryAdded view

def buildLog (catalog : Catalog) (options : Options) (version : Version) :
    Option Document → List LogEntry
  | none => catalogLog catalog options version
  | some document =>
    catalogLog catalog options version ++
      documentLog (ofCatalog catalog options version) document

end Maps

end PgMetrics
