import Mathlib.Data.List.Infix
import PgMetrics.Catalog.Builtin
import PgMetrics.Metric.Maps

namespace PgMetrics

theorem Version.compareRelease_eq_lt_iff (v w : Version) : v.compareRelease w = .lt ↔
    v.major < w.major ∨ v.major = w.major ∧ (v.minor < w.minor ∨ v.minor = w.minor ∧ v.patch < w.patch) := by
  simp only [compareRelease, Ordering.then_eq_lt, Std.compare_eq_lt, Std.compare_eq_iff_eq]

namespace Maps

/-- Whether numbers of a column are reported, if the view has such a column. -/
def Reports (m : Maps) (view column : String) : Prop :=
  ∃ map d, m.views.get? view = some map ∧ map.columns.get? column = some d ∧ d.isDiscarded = false

/-- Whether a query gives something the name of a column. -/
def Names (sql column : String) : Prop :=
  ("AS " ++ column).toList <:+: sql.toList

instance (sql column : String) : Decidable (Names sql column) :=
  inferInstanceAs (Decidable (_ <:+: _))

/-- Whether the query that a view is read with computes a column of that name. -/
def Computes (m : Maps) (view column : String) : Prop :=
  ∃ sql, (QueryChoice.of m.queries view).sql view = some sql ∧ Names sql column

end Maps

namespace Catalog

theorem accepts_below_iff (major minor : UInt64) (v : Version) :
    (below major minor).accepts v = true ↔ v.major < major ∨ v.major = major ∧ v.minor < minor := by
  have earlier : (below major minor).accepts v = true ↔ v.compareRelease (.release major minor 0) = .lt :=
    Ordering.isLT_iff_eq_lt
  rw [earlier, Version.compareRelease_eq_lt_iff]
  simp [Version.release]

theorem accepts_since (major minor : UInt64) (v : Version) :
    (since major minor).accepts v = !(below major minor).accepts v := by
  simp only [since, below, bound, Bound.accepts, Comparison.holds]
  cases v.compareRelease (.release major minor 0) <;> rfl

/-- The bounds at 9.2 and at 10 cut the versions in three. -/
theorem eras (v : Version) :
    ((below 9 2).accepts v = true ∧ (below 10 0).accepts v = true) ∨
      ((below 9 2).accepts v = false ∧ (below 10 0).accepts v = true) ∨
      ((below 9 2).accepts v = false ∧ (below 10 0).accepts v = false) := by
  cases early : (below 9 2).accepts v with
  | false => cases (below 10 0).accepts v <;> simp
  | true =>
    have earlier : (below 10 0).accepts v = true := by
      rw [accepts_below_iff] at early ⊢
      left
      obtain lt | ⟨same, -⟩ := early
      · exact UInt64.lt_trans lt (by decide)
      · rw [same]
        decide
    simp [earlier]

theorem builtin_views_replication : builtin.views.get? "pg_stat_replication" = some replicationColumns := by
  simp [builtin, withView, withOverrides, Table.get?_insert]

theorem builtin_overrides (view : String) : builtin.overrides.get? view =
    if view = "pg_stat_activity" then some [⟨⟨[since 9 2]⟩, activityQuery92⟩, ⟨⟨[below 9 2]⟩, activityQuery91⟩]
    else if view = "pg_stat_replication" then
      some [⟨⟨[since 10 0]⟩, replicationQuery10⟩, ⟨⟨[since 9 2, below 10 0]⟩, replicationQuery92⟩,
        ⟨⟨[below 9 2]⟩, replicationQuery91⟩]
    else if view = "pg_locks" then some [⟨⟨[after 0 0]⟩, locksQuery⟩]
    else none := by
  simp [builtin, withView, withOverrides, Table.get?_insert]

variable {v : Version} {o : Options}

theorem countP_overrides (above : v.compareRelease (.release 0 0 0) = .gt) {view : String} {overrides : List Override}
    (atView : builtin.overrides.get? view = some overrides) :
    overrides.countP (·.versions.accepts v) = 1 := by
  have locks : (after 0 0).accepts v = true := by
    change (v.compareRelease (.release 0 0 0)).isGT = true
    rw [above]
    rfl
  rw [builtin_overrides] at atView
  split at atView
  · cases atView
    rcases eras v with ⟨early, -⟩ | ⟨early, -⟩ | ⟨early, -⟩ <;> simp [VersionRange.accepts, accepts_since, early]
  · split at atView
    · cases atView
      rcases eras v with ⟨early, middle⟩ | ⟨early, middle⟩ | ⟨early, middle⟩ <;>
        simp [VersionRange.accepts, accepts_since, early, middle]
    · split at atView <;> cases atView
      simp [VersionRange.accepts, locks]

/-- The query for the replicas on a version. -/
def replicationQuery (v : Version) : String :=
  if (below 9 2).accepts v then replicationQuery91
  else if (below 10 0).accepts v then replicationQuery92
  else replicationQuery10

theorem resolve_replication (v : Version) :
    (Override.resolveAll builtin.overrides v).get? "pg_stat_replication" = some (replicationQuery v) := by
  rw [Override.get?_resolveAll, builtin_overrides, replicationQuery]
  rcases eras v with ⟨early, middle⟩ | ⟨early, middle⟩ | ⟨early, middle⟩ <;>
    simp [Override.resolve?, VersionRange.accepts, accepts_since, early, middle]

theorem computes_replication_iff (enabled : o.disableDefaultMetrics = false) (column : String) :
    (Maps.build builtin o v none).Computes "pg_stat_replication" column ↔
      Maps.Names (replicationQuery v) column := by
  have queries : (Maps.build builtin o v none).queries = Override.resolveAll builtin.overrides v := by
    simp [Maps.build, Maps.ofCatalog, enabled]
  have given : (replicationQuery v).isEmpty = false := by
    unfold replicationQuery
    split
    · decide +kernel
    · split <;> decide +kernel
  rw [Maps.Computes, queries, QueryChoice.of, resolve_replication]
  simp [given, QueryChoice.sql]

theorem names_replicationQuery91 : ¬Maps.Names replicationQuery91 "pg_wal_lsn_diff" ∧
    ¬Maps.Names replicationQuery91 "pg_xlog_location_diff" := by
  unfold Maps.Names replicationQuery91
  repeat rw [String.toList_append]
  decide +kernel

theorem names_replicationQuery92 : ¬Maps.Names replicationQuery92 "pg_wal_lsn_diff" ∧
    Maps.Names replicationQuery92 "pg_xlog_location_diff" := by
  unfold Maps.Names replicationQuery92
  repeat rw [String.toList_append]
  decide +kernel

theorem names_replicationQuery10 : Maps.Names replicationQuery10 "pg_wal_lsn_diff" ∧
    ¬Maps.Names replicationQuery10 "pg_xlog_location_diff" := by
  unfold Maps.Names replicationQuery10
  repeat rw [String.toList_append]
  decide +kernel

theorem isDiscarded_gated (view name description : String) (bounds : List Bound) :
    (Descriptor.compile view v (gated name .gauge description bounds)).isDiscarded = !VersionRange.accepts ⟨bounds⟩ v := by
  cases accepted : VersionRange.accepts ⟨bounds⟩ v <;> simp [Descriptor.compile, gated, accepted] <;> rfl

theorem reports_replication_iff (enabled : o.disableDefaultMetrics = false) {name description : String}
    {bounds : List Bound}
    (declared : replicationColumns.reverse.find? (·.name == name) = some (gated name .gauge description bounds)) :
    (Maps.build builtin o v none).Reports "pg_stat_replication" name ↔ VersionRange.accepts ⟨bounds⟩ v = true := by
  have views : (Maps.build builtin o v none).views = compileViews builtin.views.entries v := by
    simp [Maps.build, Maps.ofCatalog, enabled]
  have compiled : (compileViews builtin.views.entries v).get? "pg_stat_replication" =
      some (ViewMap.compile "pg_stat_replication" v replicationColumns) := by
    rw [get?_compileViews, Table.lookup_reverse_entries, builtin_views_replication, Option.map_some]
  have column := ViewMap.get?_compile "pg_stat_replication" v replicationColumns name
  rw [declared, Option.map_some] at column
  have discarded := @isDiscarded_gated v "pg_stat_replication" name description bounds
  rw [Maps.Reports, views]
  constructor
  · rintro ⟨map, d, atView, atColumn, used⟩
    cases compiled.symm.trans atView
    cases column.symm.trans atColumn
    simpa [used] using discarded
  · intro accepted
    exact ⟨_, _, compiled, column, by rw [discarded, accepted]; rfl⟩

/-- Above version zero each view that has queries has exactly one for the version; and of the two columns that tell how
far a replica lags behind, each is reported on exactly the versions on which the query for the replicas computes it. -/
theorem gates_agree (above : v.compareRelease (.release 0 0 0) = .gt) :
    (∀ view overrides, builtin.overrides.get? view = some overrides →
      overrides.countP (·.versions.accepts v) = 1) ∧
    ∀ o : Options, ∀ column ∈ ["pg_wal_lsn_diff", "pg_xlog_location_diff"],
      (Maps.build builtin o v none).Reports "pg_stat_replication" column ↔
        (Maps.build builtin o v none).Computes "pg_stat_replication" column := by
  refine ⟨fun view overrides => countP_overrides above, ?_⟩
  intro o column lag
  cases enabled : o.disableDefaultMetrics with
  | true =>
    -- Without the catalog there are no columns, and all of the view is read as it is.
    have empty : Maps.build builtin o v none = {} := by simp [Maps.build, Maps.ofCatalog, enabled]
    have plain : ∀ column ∈ ["pg_wal_lsn_diff", "pg_xlog_location_diff"],
        ¬Maps.Names ("SELECT * FROM " ++ "pg_stat_replication" ++ ";") column := by decide +kernel
    rw [empty]
    constructor
    · rintro ⟨_, _, none, -⟩
      cases none
    · rintro ⟨sql, atSql, computed⟩
      cases atSql
      exact absurd computed (plain column lag)
  | false =>
    rw [computes_replication_iff enabled, replicationQuery]
    simp only [List.mem_cons, List.not_mem_nil, or_false] at lag
    obtain rfl | rfl := lag
    all_goals
      rw [reports_replication_iff enabled rfl]
      rcases eras v with ⟨early, middle⟩ | ⟨early, middle⟩ | ⟨early, middle⟩ <;>
        simp [VersionRange.accepts, accepts_since, early, middle, names_replicationQuery91, names_replicationQuery92,
          names_replicationQuery10]

/-- Just before version 10 the lag is computed from log locations, so that this column is reported and the other not. -/
theorem gates_agree_before_ten :
    let v := Version.release 9 99 99
    let m := Maps.build builtin {} v none
    v.compareRelease (.release 0 0 0) = .gt ∧
      (∀ overrides, builtin.overrides.get? "pg_stat_replication" = some overrides →
        overrides.countP (·.versions.accepts v) = 1) ∧
      m.Reports "pg_stat_replication" "pg_xlog_location_diff" ∧ ¬m.Reports "pg_stat_replication" "pg_wal_lsn_diff" := by
  intro v m
  have above : v.compareRelease (.release 0 0 0) = .gt := by decide
  obtain ⟨one, agree⟩ := gates_agree above
  have computes := @computes_replication_iff v {} rfl
  refine ⟨above, one "pg_stat_replication", (agree {} _ (by simp)).2 ?_, fun reported => ?_⟩
  · exact (computes _).2 names_replicationQuery92.2
  · exact names_replicationQuery92.1 ((computes _).1 ((agree {} _ (by simp)).1 reported))

end Catalog

end PgMetrics
