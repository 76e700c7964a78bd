import PgMetrics.Metric.Maps
import PgMetrics.Proofs.Catalog.Compiled

namespace PgMetrics

variable {v w : Version} {d : Document} {view : String}

namespace Document

/-- The columns that a document gives a view for which it lists metrics. -/
def columns? (d : Document) (view : String) : Option (List Column) :=
  (d.views.get? view).bind fun given => if given.metrics.isEmpty then none else some (columnsOf given)

/-- The query that a document gives a view. -/
def query? (d : Document) (view : String) : Option String :=
  (d.views.get? view).bind (·.query)

theorem declarations_eq (d : Document) : d.declarations =
    (d.views.filterMap fun _ given => if given.metrics.isEmpty then none else some (columnsOf given)).entries := by
  unfold declarations Table.filterMap
  dsimp only
  induction d.views.entries with
  | nil => rfl
  | cons e es ih =>
    have later : (es.filter fun e => !e.2.metrics.isEmpty).map (fun e => (e.1, columnsOf e.2)) = _ := ih
    by_cases empty : e.2.metrics = [] <;> simp_all

theorem get?_compileViews_declarations (d : Document) (v : Version) (view : String) :
    (compileViews d.declarations v).get? view = (d.columns? view).map (ViewMap.compile view v) := by
  rw [get?_compileViews, declarations_eq, Table.lookup_reverse_entries, Table.get?_filterMap]
  rfl

theorem get?_ofList_queries (d : Document) (view : String) : (Table.ofList d.queries).get? view = d.query? view := by
  have queries : d.queries = (d.views.filterMap fun _ given => given.query).entries := rfl
  rw [queries, Table.ofList_entries, Table.get?_filterMap]
  rfl

/-- A document cannot give ranges of versions, so its columns are the same on all versions. -/
theorem compile_columns? {columns : List Column} (given : d.columns? view = some columns) :
    ViewMap.compile view v columns = ViewMap.compile view w columns := by
  refine ViewMap.compile_congr fun c member range gate => ?_
  obtain ⟨entry, -, listed⟩ := Option.bind_eq_some_iff.1 given
  split at listed
  · cases listed
  · cases listed
    simp only [columnsOf, List.mem_flatMap, List.mem_map] at member
    obtain ⟨_, _, _, _, rfl⟩ := member
    cases gate

end Document

namespace Maps

variable {catalog : Catalog} {options : Options}

theorem get?_views_build : (build catalog options v (some d)).views.get? view =
    ((d.columns? view).map (ViewMap.compile view v)).or ((build catalog options v none).views.get? view) := by
  rw [← Document.get?_compileViews_declarations]
  exact Table.get?_extend ..

theorem get?_queries_build : (build catalog options v (some d)).queries.get? view =
    (d.query? view).or ((build catalog options v none).queries.get? view) := by
  rw [← Document.get?_ofList_queries]
  exact Table.get?_extend ..

theorem get?_views_of_columns? {columns : List Column} (given : d.columns? view = some columns) :
    (build catalog options v (some d)).views.get? view = some (ViewMap.compile view v columns) := by
  rw [get?_views_build, given]
  rfl

theorem get?_queries_of_query? {sql : String} (given : d.query? view = some sql) :
    (build catalog options v (some d)).queries.get? view = some sql := by
  rw [get?_queries_build, given]
  rfl

/-- Without a document there is what the catalog has, or nothing if default metrics are disabled. -/
theorem get?_build_none (catalog : Catalog) (options : Options) (v : Version) (view : String) :
    (build catalog options v none).views.get? view =
        (if options.disableDefaultMetrics then none else (catalog.views.get? view).map (ViewMap.compile view v)) ∧
      (build catalog options v none).queries.get? view =
        if options.disableDefaultMetrics then none
        else (catalog.overrides.get? view).map fun os => (Override.resolve? v os).getD "" := by
  simp only [build, ofCatalog]
  split
  · exact ⟨rfl, rfl⟩
  · rw [get?_compileViews, Table.lookup_reverse_entries, Override.get?_resolveAll]
    exact ⟨rfl, rfl⟩

/-- For each view, the columns that a document gives count alone, and so does its query; what it does not give is as it
is without the document, from the catalog, or absent if default metrics are disabled. What the document gives is the
same on all versions, and a view that it does not mention is left as it is. -/
theorem merged_view_by_view (catalog : Catalog) (options : Options) (v : Version) (d : Document) (view : String) :
    let plain := build catalog options v none
    let merged := build catalog options v (some d)
    (∀ columns, d.columns? view = some columns →
      merged.views.get? view = some (ViewMap.compile view v columns) ∧
      ∀ map, merged.views.get? view = some map →
        ∀ name, map.columns.contains name = true ↔ name ∈ columns.map (·.name)) ∧
    (d.columns? view = none → merged.views.get? view = plain.views.get? view) ∧
    (∀ sql, d.query? view = some sql → merged.queries.get? view = some sql) ∧
    (d.query? view = none → merged.queries.get? view = plain.queries.get? view) ∧
    (d.views.get? view = none → merged.views.get? view = plain.views.get? view ∧
      merged.queries.get? view = plain.queries.get? view) ∧
    (plain.views.get? view =
        (if options.disableDefaultMetrics then none else (catalog.views.get? view).map (ViewMap.compile view v)) ∧
      plain.queries.get? view =
        if options.disableDefaultMetrics then none
        else (catalog.overrides.get? view).map fun os => (Override.resolve? v os).getD "") ∧
    ∀ w, (d.columns? view ≠ none →
        (build catalog options w (some d)).views.get? view = merged.views.get? view) ∧
      (d.query? view ≠ none →
        (build catalog options w (some d)).queries.get? view = merged.queries.get? view) := by
  intro plain merged
  have keptMap (without : d.columns? view = none) : merged.views.get? view = plain.views.get? view := by
    rw [get?_views_build, without]
    rfl
  have keptQuery (without : d.query? view = none) : merged.queries.get? view = plain.queries.get? view := by
    rw [get?_queries_build, without]
    rfl
  refine ⟨?_, keptMap, fun sql => get?_queries_of_query?, keptQuery, fun absent => ?_, get?_build_none ..,
    fun w => ⟨fun given => ?_, fun given => ?_⟩⟩
  · intro columns given
    have compiled : merged.views.get? view = some (ViewMap.compile view v columns) := get?_views_of_columns? given
    refine ⟨compiled, ?_⟩
    intro map atView name
    cases compiled.symm.trans atView
    exact ViewMap.contains_compile
  · exact ⟨keptMap (by rw [Document.columns?, absent]; rfl), keptQuery (by rw [Document.query?, absent]; rfl)⟩
  · obtain ⟨columns, given⟩ := Option.ne_none_iff_exists'.1 given
    rw [get?_views_of_columns? given, get?_views_of_columns? given, Document.compile_columns? given]
  · obtain ⟨sql, given⟩ := Option.ne_none_iff_exists'.1 given
    rw [get?_queries_of_query? given, get?_queries_of_query? given]

/-- A view of the catalog that is given another query keeps its columns, and one that is new has no query. -/
theorem merged_with_query_alone :
    let catalog := (({} : Catalog).withView "pg_x" [⟨"a", .gauge, "A", none, none⟩]).withOverrides "pg_x"
      [⟨⟨[⟨.ge, .release 10 0 0⟩]⟩, "SELECT 10 AS a"⟩]
    let d : Document := ⟨.ofList [("pg_x", ⟨some "SELECT 1 AS a", []⟩),
      ("pg_y", ⟨none, [.ofList [("n", ⟨.counter, "N"⟩)]]⟩)]⟩
    let v := Version.release 9 6 0
    let merged := build catalog {} v (some d)
    merged.queries.get? "pg_x" = some "SELECT 1 AS a" ∧
      merged.views.get? "pg_x" = some (ViewMap.compile "pg_x" v [⟨"a", .gauge, "A", none, none⟩]) ∧
      merged.views.get? "pg_y" = some (ViewMap.compile "pg_y" v [⟨"n", .counter, "N", none, none⟩]) ∧
      merged.queries.get? "pg_y" = none := by
  intro catalog d v merged
  have query : d.query? "pg_x" = some "SELECT 1 AS a" := by decide
  have noQuery : d.query? "pg_y" = none := by decide
  have columns : d.columns? "pg_y" = some [⟨"n", .counter, "N", none, none⟩] := rfl
  have noColumns : d.columns? "pg_x" = none := rfl
  obtain ⟨-, builtIn, given, -, -, ⟨views, -⟩, -⟩ := merged_view_by_view catalog {} v d "pg_x"
  obtain ⟨compiled, -, -, unasked, -, ⟨-, queries⟩, -⟩ := merged_view_by_view catalog {} v d "pg_y"
  exact ⟨given _ query, (builtIn noColumns).trans views, (compiled _ columns).1, (unasked noQuery).trans queries⟩

end Maps

end PgMetrics
