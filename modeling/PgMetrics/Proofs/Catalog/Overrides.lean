import PgMetrics.Proofs.Catalog.Gates
import PgMetrics.Proofs.Scrape.Pass

namespace PgMetrics

open Dialogue

/-- A view is read with the query that it has, with the default one if it has none, and not at all if it is empty. -/
theorem QueryChoice.sql_of (queries : Table String) (view : String) : (of queries view).sql view =
    match queries.get? view with
    | none => some ("SELECT * FROM " ++ view ++ ";")
    | some sql => if sql = "" then none else some sql := by
  rw [of]
  cases queries.get? view with
  | none => rfl
  | some sql => by_cases empty : sql = "" <;> simp [empty, QueryChoice.sql]

theorem QueryChoice.of_eq_default_iff (queries : Table String) (view : String) :
    of queries view = default ↔ queries.contains view = false := by
  rw [of, Table.contains]
  cases queries.get? view with
  | none => simp
  | some sql => by_cases empty : sql = "" <;> simp [empty]

/-- Reading views asks for each of them, in order, what the queries of the connection say. -/
theorem Exporter.sqls_of_scrapeViews {σ : Type} {address : Session → σ} {c : Connection} {emitUntyped : Bool}
    {views : List (String × ViewMap)} {r r' : TargetReport} {t : List (Exchange σ)}
    (run : Runs (scrapeViews (world address) c emitUntyped views r) t r') :
    (queries t).map (·.2.1) = views.filterMap fun e => (QueryChoice.of c.state.maps.queries e.1).sql e.1 := by
  rw [scrapeViews_eq_readAll] at run
  obtain ⟨parts, sources, rfl, -⟩ := Source.runs_readAll.1 run
  have texts := congrArg (List.map (·.sql)) sources
  rw [List.map_map, List.map_filterMap] at texts
  rw [← queries_spoken, Part.spoken_exchanges, Part.queries_exchange, List.map_map]
  refine texts.trans (congrArg (List.filterMap · views) (funext fun e => ?_))
  rw [Connection.source?, Option.map_map]
  exact Option.map_id' ..

namespace Override

variable {os os' : List Override} {v : Version}

/-- Whatever comes behind it, the first override that fits counts. -/
theorem resolve?_first {before after : List Override} {o : Override}
    (others : ∀ x ∈ before, x.versions.accepts v = false) (fits : o.versions.accepts v = true) :
    resolve? v (before ++ o :: after) = some o.query := by
  have found : (before ++ o :: after).find? (·.versions.accepts v) = some o :=
    List.find?_eq_some_iff_append.2 ⟨fits, before, after, rfl, fun x member => by simp [others x member]⟩
  rw [resolve?, found]
  rfl

theorem resolve?_none (others : ∀ o ∈ os, o.versions.accepts v = false) : resolve? v os = none := by
  have found : os.find? (·.versions.accepts v) = none :=
    List.find?_eq_none.2 fun o member => by simp [others o member]
  rw [resolve?, found]
  rfl

/-- Where at most one fits, none of them comes first by its place alone. -/
theorem resolve?_perm (apart : os.countP (·.versions.accepts v) ≤ 1) (perm : os.Perm os') :
    resolve? v os' = resolve? v os := by
  have fitting := perm.filter (·.versions.accepts v)
  have same : os.filter (·.versions.accepts v) = os'.filter (·.versions.accepts v) := by
    rw [List.countP_eq_length_filter] at apart
    obtain none | one := Nat.le_one_iff_eq_zero_or_eq_one.1 apart
    · rw [List.length_eq_zero_iff.1 none] at fitting ⊢
      exact fitting.nil_eq
    · obtain ⟨o, alone⟩ := List.length_eq_one_iff.1 one
      rw [alone] at fitting ⊢
      exact List.singleton_perm.1 fitting
  rw [resolve?, resolve?, ← List.head?_filter, ← List.head?_filter, same]

/-- Exactly the views that have overrides have a resolved query: that of the first one that fits, or the empty one if
none does. A view is then read with its resolved query, not at all if that is empty, and with the default query exactly
if it has no overrides. If no version has two overrides of a view that fit, their order is of no account. -/
theorem first_fit_is_asked (overrides : Table (List Override)) (v : Version) :
    (resolveAll overrides v).keys = overrides.keys ∧
    (∀ view os, overrides.get? view = some os →
      (∀ before o after, os = before ++ o :: after → (∀ x ∈ before, x.versions.accepts v = false) →
        o.versions.accepts v = true → (resolveAll overrides v).get? view = some o.query) ∧
      ((∀ o ∈ os, o.versions.accepts v = false) → (resolveAll overrides v).get? view = some "")) ∧
    (∀ view, QueryChoice.of (resolveAll overrides v) view = .default ↔ overrides.contains view = false) ∧
    (∀ {σ : Type} {address : Session → σ} {c : Connection} {emitUntyped : Bool} {views : List (String × ViewMap)}
      {r r' : TargetReport} {t : List (Exchange σ)}, c.state.maps.queries = resolveAll overrides v →
      Runs (Exporter.scrapeViews (world address) c emitUntyped views r) t r' →
      (queries t).map (·.2.1) = views.filterMap fun e =>
        match (resolveAll overrides v).get? e.1 with
        | none => some ("SELECT * FROM " ++ e.1 ++ ";")
        | some sql => if sql = "" then none else some sql) ∧
    ∀ view os os', overrides.get? view = some os → (∀ w, os.countP (·.versions.accepts w) ≤ 1) → os.Perm os' →
      ∀ w, resolveAll (overrides.insert view os') w = resolveAll overrides w := by
  refine ⟨Table.keys_mapValues .., ?_, ?_, ?_, ?_⟩
  · intro view os atView
    rw [get?_resolveAll, atView, Option.map_some]
    refine ⟨?_, fun others => ?_⟩
    · rintro before o after rfl others fits
      rw [resolve?_first others fits]
      rfl
    · rw [resolve?_none others]
      rfl
  · intro view
    rw [QueryChoice.of_eq_default_iff, Table.contains, Table.contains, get?_resolveAll, Option.isSome_map]
  · intro σ address c emitUntyped views r r' t resolved run
    rw [Exporter.sqls_of_scrapeViews run, resolved]
    simp only [QueryChoice.sql_of]
  · intro view os os' atView apart perm w
    refine Table.ext_get? fun other => ?_
    rw [get?_resolveAll, get?_resolveAll, Table.get?_insert]
    split
    · rename_i same
      rw [same, atView, Option.map_some, Option.map_some, resolve?_perm (apart w) perm]
    · rfl

/-- On version 12 the newer of two queries is asked in either order of them, the view whose only query ends before
version 9.2 is left out, and the one without queries is read as it is. -/
theorem asked_in_either_order :
    let os : List Override := [⟨⟨[Catalog.since 10 0]⟩, "SELECT 2"⟩, ⟨⟨[Catalog.below 10 0]⟩, "SELECT 1"⟩]
    let overrides : Table (List Override) :=
      .ofList [("pg_new", os), ("pg_old", [⟨⟨[Catalog.below 9 2]⟩, "SELECT 3"⟩])]
    let v := Version.release 12 0 0
    let c : Connection := { session := ⟨0, ⟨"host=db", "db:5432"⟩⟩, labels := [],
                            state := { maps := { queries := resolveAll overrides v } } }
    let views := ["pg_old", "pg_new", "pg_other"].map fun view => (view, ViewMap.compile view v [])
    let d := Exporter.scrapeViews (world id) c false views { target := "host=db" }
    (resolveAll overrides v).get? "pg_new" = some "SELECT 2" ∧ (resolveAll overrides v).get? "pg_old" = some "" ∧
      QueryChoice.of (resolveAll overrides v) "pg_other" = .default ∧
      (∀ t r', Runs d t r' → (queries t).map (·.2.1) = ["SELECT 2", "SELECT * FROM pg_other;"]) ∧
      ∀ w, resolveAll (overrides.insert "pg_new" os.reverse) w = resolveAll overrides w := by
  intro os overrides v c views d
  have atNew : overrides.get? "pg_new" = some os := by
    simp [overrides, Table.get?_ofList, List.lookup_cons]
  have atOld : overrides.get? "pg_old" = some [⟨⟨[Catalog.below 9 2]⟩, "SELECT 3"⟩] := by
    simp [overrides, Table.get?_ofList]
  have apart (w : Version) : os.countP (·.versions.accepts w) ≤ 1 := by
    cases early : (Catalog.below 10 0).accepts w <;> simp [os, VersionRange.accepts, Catalog.accepts_since, early]
  obtain ⟨-, entry, other, asked, order⟩ := first_fit_is_asked overrides v
  have newer : (resolveAll overrides v).get? "pg_new" = some "SELECT 2" :=
    (entry _ _ atNew).1 [] _ _ rfl (by simp) (by decide)
  have older : (resolveAll overrides v).get? "pg_old" = some "" := (entry _ _ atOld).2 (by decide)
  have plain := (other "pg_other").2 (by simp [overrides, Table.contains, Table.get?_ofList])
  refine ⟨newer, older, plain, fun t r' run => ?_, order _ _ _ atNew apart os.reverse_perm.symm⟩
  rw [asked rfl run]
  have unknown : (resolveAll overrides v).get? "pg_other" = none := by
    rw [get?_resolveAll]
    simp [overrides, Table.get?_ofList]
  simp [views, newer, older, unknown]

end Override

end PgMetrics
