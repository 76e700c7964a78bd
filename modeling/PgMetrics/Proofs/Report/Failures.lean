import Mathlib.Data.List.Perm.Basic
import Mathlib.Data.List.Forall2
import PgMetrics.Proofs.Report.JsonText
import PgMetrics.Proofs.Scrape.Cycles

namespace PgMetrics

open Dialogue

namespace Table

variable {α : Type}

theorem keys_nodup (t : Table α) : (t.entries.map (·.1)).Nodup := by
  rw [List.Nodup, List.pairwise_map]
  exact t.sorted.imp fun lt => String.ne_of_lt lt

/-- A table has all the entries that were put in, in another order, if no two have one name. -/
theorem entries_perm {es : List (String × α)} (apart : (es.map (·.1)).Nodup) : (ofList es).entries.Perm es := by
  refine (List.perm_ext_iff_of_nodup (keys_nodup _).of_map apart.of_map).2 ?_
  rintro ⟨name, value⟩
  rw [mem_entries_iff]
  refine ⟨mem_of_get?_ofList, fun member => ?_⟩
  rw [get?_ofList]
  cases found : es.reverse.lookup name with
  | none =>
    rw [List.lookup_eq_none_iff] at found
    simpa using found _ (List.mem_reverse.2 member)
  | some other =>
    have same := List.inj_on_of_nodup_map apart (mem_of_lookup_reverse found) member rfl
    rw [(Prod.mk.inj same).2]

theorem ofList_mapValues {β : Type} (f : String → α → β) (es : List (String × α)) :
    ofList (es.map fun e => (e.1, f e.1 e.2)) = (ofList es).mapValues f := by
  refine ext_get? fun name => ?_
  rw [get?_mapValues, get?_ofList, get?_ofList, ← List.map_reverse, lookup_mapValues]

end Table

namespace JsonTree

open JsonValue

theorem treeElements_eq (vs : List JsonValue) : treeElements vs = vs.map tree := by
  induction vs with
  | nil => rfl
  | cons v vs ih => rw [treeElements, ih, List.map_cons]

theorem treeFields_eq (fields : List (String × JsonValue)) :
    treeFields fields = fields.map fun p => (p.1, p.2.tree) := by
  induction fields with
  | nil => rfl
  | cons p fields ih => rw [treeFields, ih, List.map_cons]

/-- Of two fields of one name the later counts. -/
theorem field?_ofFields (fields : List (String × JsonValue)) (name : String) :
    (ofFields fields).tree.field? name = (fields.reverse.lookup name).map tree := by
  change (treeFields (Table.ofList fields).entries).lookup name = _
  rw [treeFields_eq, Table.lookup_mapValues fun _ => tree, ← Table.get?_ofList]
  rfl

end JsonTree

namespace JsonReport

open JsonValue JsonTree

/-- The failures of one kind in the entry of a target. -/
def errorOf? (entry : JsonTree) (kind : String) : Option JsonTree :=
  (entry.field? "errors").bind (·.field? kind)

/-- The failed views in the entry of a target, each with its message. -/
def viewsOf (entry : JsonTree) : List (String × JsonTree) :=
  match errorOf? entry "namespaces" with
  | some (.object fields) => fields
  | _ => []

/-- The failed views of a report, each with its message. -/
def viewMessages (r : TargetReport) : List (String × JsonTree) :=
  r.viewFailures.map fun e => (e.view, .string e.failure.message)

/-- An entry tells what there is to tell of a target: every failure that is not one of a view, and of each name the
failure of the last view of that name. -/
structure Tells (r : TargetReport) (entry : JsonTree) : Prop where
  target : entry.field? "target" = some (.string r.target)
  connected : entry.field? "connected" = some (.literal (if r.connectionFailure.isSome then "false" else "true"))
  connection : errorOf? entry "connection" = r.connectionFailure.map fun e => .string e.message
  version : errorOf? entry "version" = r.versionFailure.map fun e => .string e.message
  values : errorOf? entry "values" =
    if r.valueErrors = [] then none else some (.array (r.valueErrors.map fun e => .string e.message))
  ascending : (viewsOf entry).Pairwise (·.1 < ·.1)
  views : ∀ name, (viewsOf entry).lookup name = (viewMessages r).reverse.lookup name

theorem errorOf?_target (r : TargetReport) :
    errorOf? (target r).tree "connection" = (r.connectionFailure.map fun e => .string e.message) ∧
      errorOf? (target r).tree "version" = (r.versionFailure.map fun e => .string e.message) ∧
      errorOf? (target r).tree "namespaces" = (if r.viewFailures = [] then none
        else some (ofFields (r.viewFailures.map fun e => (e.view, string e.failure.message))).tree) ∧
      errorOf? (target r).tree "values" =
        if r.valueErrors = [] then none else some (.array (r.valueErrors.map fun e => .string e.message)) := by
  have atErrors (kind : String) : errorOf? (target r).tree kind = (errors r).tree.field? kind := by
    rw [errorOf?, JsonReport.target, field?_ofFields]
    rfl
  simp only [atErrors, errors, field?_ofFields]
  cases r.connectionFailure <;> cases r.versionFailure <;> cases r.viewFailures <;> cases r.valueErrors <;>
    simp [List.lookup_cons, tree, treeElements_eq]

theorem viewsOf_target (r : TargetReport) : viewsOf (target r).tree = (Table.ofList (viewMessages r)).entries := by
  obtain ⟨-, -, namespaces, -⟩ := errorOf?_target r
  have messages : viewMessages r =
      (r.viewFailures.map fun e => (e.view, JsonValue.string e.failure.message)).map fun p => (p.1, p.2.tree) := by
    rw [List.map_map]
    rfl
  rw [viewsOf, namespaces, messages, Table.ofList_mapValues fun _ => tree]
  by_cases none_ : r.viewFailures = []
  · rw [if_pos none_, none_]
    rfl
  · rw [if_neg none_]
    exact treeFields_eq _

theorem tells_target (r : TargetReport) : Tells r (target r).tree := by
  obtain ⟨connection, version, -, values⟩ := errorOf?_target r
  refine ⟨?_, ?_, connection, version, values, ?_, ?_⟩
  · rw [JsonReport.target, field?_ofFields]
    rfl
  · rw [JsonReport.target, field?_ofFields]
    cases atFailure : r.connectionFailure <;> simp [TargetReport.isConnected, atFailure, List.lookup_cons, tree]
  · rw [viewsOf_target]
    exact (Table.ofList (viewMessages r)).sorted
  · intro name
    rw [viewsOf_target, ← Table.get?_ofList]
    rfl

/-- Every failed view is told with its message exactly if no two of them have one name. -/
theorem viewsOf_perm_iff (r : TargetReport) :
    (viewsOf (target r).tree).Perm (viewMessages r) ↔ (r.viewFailures.map (·.view)).Nodup := by
  have names : (viewMessages r).map (·.1) = r.viewFailures.map (·.view) := by
    rw [viewMessages, List.map_map]
    rfl
  rw [viewsOf_target, ← names]
  exact ⟨fun perm => (perm.map _).nodup_iff.1 (Table.keys_nodup _), Table.entries_perm⟩

theorem targets_document (s : Snapshot) :
    (document s).tree.field? "targets" = some (.array (s.reports.map fun r => (target r).tree)) := by
  rw [document, field?_ofFields]
  simp [List.lookup_cons, tree, treeElements_eq]

end JsonReport

namespace Exporter

variable {σ : Type} {address : Session → σ} {e e' : Exporter} {x : String} {t : List (Exchange σ)} {r : TargetReport}

/-- The settings come first among what fails in a pass, and then views in ascending order of their names. -/
theorem Passes.viewFailures_eq (passes : Passes address e x t r e') : ∃ own views,
    r.viewFailures.map (·.view) = own ++ views ∧ (own = [] ∨ own = [Settings.view]) ∧ views.Pairwise (· < ·) := by
  cases passes with
  | unconnected => exact ⟨[], [], rfl, .inl rfl, .nil⟩
  | @connected t₁ t₂ c registry outcome state loader parts acquires refreshes sources =>
    rw [TargetReport.withParts_viewFailures, viewFailures_addVersion, List.map_nil, List.nil_append]
    obtain ⟨first, views, rfl, settings, rest⟩ := List.map_eq_append_iff.1 sources
    rw [List.filter_append, List.map_append]
    refine ⟨_, _, rfl, ?_, ?_⟩
    · have part : ((first.filter Part.fails).map (·.source.name)).Sublist (first.map (·.source.name)) :=
        List.filter_sublist.map _
      have own : (first.map (·.source.name)).Sublist [Settings.view] := by
        rw [show first.map (·.source.name) = (first.map (·.source)).map (·.name) from (List.map_map ..).symm, settings]
        split
        · exact List.nil_sublist _
        · exact .refl _
      exact List.sublist_singleton.1 (part.trans own)
    · have ascending := Connection.views_ascending { c with state } e.options.emitUntypedColumns
      rw [← rest, List.map_map] at ascending
      exact ascending.sublist (List.filter_sublist.map _)

/-- No two failures in a pass have one name but those of the settings and of a view that is called like them. -/
theorem Passes.viewFailures_nodup_iff (passes : Passes address e x t r e') :
    (r.viewFailures.map (·.view)).Nodup ↔ (r.viewFailures.map (·.view)).count Settings.view ≤ 1 := by
  obtain ⟨own, views, names, first, ascending⟩ := passes.viewFailures_eq
  have apart : views.Nodup := ascending.imp String.ne_of_lt
  rw [names]
  obtain rfl | rfl := first
  · exact ⟨fun nodup => List.nodup_iff_count_le_one.1 nodup _, fun _ => apart⟩
  · rw [List.singleton_append, List.nodup_cons, List.count_cons_self, ← List.count_eq_zero]
    exact ⟨fun both => by omega, fun once => ⟨by omega, apart⟩⟩

theorem viewFailures_nodup_iff_of_run {xs : List String} {rs : List TargetReport}
    (run : Runs (e.scrapeTargets (world address) xs) t (rs, e')) :
    ∀ r ∈ rs, (r.viewFailures.map (·.view)).Nodup ↔ (r.viewFailures.map (·.view)).count Settings.view ≤ 1 := by
  induction xs generalizing e t rs with
  | nil =>
    obtain ⟨-, same⟩ := runs_pure.1 run
    cases same
    intro r member
    cases member
  | cons x xs ih =>
    obtain ⟨_, r, e₁, _, rs', passes, others, rfl, rfl⟩ := runs_scrapeTargets_cons run
    intro s member
    obtain rfl | later := List.mem_cons.1 member
    · exact passes.viewFailures_nodup_iff
    · exact ih others s later

/-- The JSON report of a scrape has an entry for each target in their order, which tells why there was no connection
or no version, every value that failed, and every view that failed: all of them with their messages exactly if not
both the settings and a view that is called like them failed. -/
theorem report_tells_failures {s : Snapshot} (run : Runs (e.scrape (world address)) t (s, e')) :
    ∃ tree entries, JsonTree.read (JsonReport.text s) = some tree ∧ tree.field? "targets" = some (.array entries) ∧
      List.Forall₂ (fun r entry => JsonReport.Tells r entry ∧
        ((JsonReport.viewsOf entry).Perm (JsonReport.viewMessages r) ↔
          (r.viewFailures.map (·.view)).count Settings.view ≤ 1)) s.reports entries := by
  refine ⟨_, _, JsonTree.read_text _, JsonReport.targets_document s, ?_⟩
  obtain ⟨xs, scrapes⟩ := runs_scrape_iff.1 run
  cases scrapes with
  | mk chosen scraped =>
    rw [List.forall₂_map_right_iff, List.forall₂_same]
    intro r member
    refine ⟨JsonReport.tells_target r, ?_⟩
    rw [JsonReport.viewsOf_perm_iff]
    exact viewFailures_nodup_iff_of_run scraped r member

/-- The settings and a view of one target fail, and there is no connection to another; all of it is told. -/
theorem report_beside_unreachable_target :
    let catalog : Catalog := { views := ⟨[("pg_x", [⟨"n", .gauge, "", none, none⟩])], by decide⟩ }
    let lost (α : Type) : Except Failure α := .error (.of (.database .unreachable))
    let replies := Request.replyOf (fun x => if x = "host=b" then lost Unit else .ok ()) (fun _ sql =>
      if sql = Banner.query then .ok ⟨["version"], [[.text "PostgreSQL 11.2"]]⟩ else lost Answer) (.error .notFound)
    let e := Exporter.of catalog {} ["host=a", "host=b"]
    let run := play (fun _ => replies) [] (e.scrape (world Session.dsn))
    let reports := run.2.1.reports
    Runs (e.scrape (world Session.dsn)) run.1 run.2 ∧
      reports.map (·.viewFailures.map (·.view)) = [["pg_settings", "pg_x"], []] ∧
      reports.map (·.connectionFailure.isSome) = [false, true] ∧
      ∃ tree entries, JsonTree.read (JsonReport.text run.2.1) = some tree ∧
        tree.field? "targets" = some (.array entries) ∧
        List.Forall₂ (fun r entry => JsonReport.Tells r entry ∧
          (JsonReport.viewsOf entry).Perm (JsonReport.viewMessages r)) reports entries := by
  intro catalog lost replies e run reports
  have runs : Runs (e.scrape (world Session.dsn)) run.1 run.2 := runs_play _ _ _
  have apart : ∀ r ∈ reports, (r.viewFailures.map (·.view)).count Settings.view ≤ 1 := by decide +kernel
  obtain ⟨tree, entries, read, targets, all⟩ := report_tells_failures runs
  refine ⟨runs, by decide +kernel, by decide +kernel, tree, entries, read, targets, ?_⟩
  rw [List.forall₂_iff_zip] at all ⊢
  refine ⟨all.1, ?_⟩
  intro r entry member
  obtain ⟨tells, whole⟩ := all.2 member
  exact ⟨tells, whole.2 (apart r (List.of_mem_zip member).1)⟩

/-- The document declares a view that is called like the settings. Both fail, and the report tells of one. -/
theorem report_loses_settings_failure :
    let content : Content := .ok "pg_settings: {metrics: [{n: {usage: GAUGE}}]}".toUTF8
    let replies := Request.replyOf (fun _ => .ok ()) (fun _ sql =>
      if sql = Banner.query then .ok ⟨["version"], [[.text "PostgreSQL 11.2"]]⟩
      else .error (.of (.database .unreachable))) content
    let e := Exporter.of {} { extensionPath := some "q.yaml" } ["host=db"]
    let run := play (fun _ => replies) [] (e.scrape (world Session.dsn))
    Runs (e.scrape (world Session.dsn)) run.1 run.2 ∧
      run.2.1.reports.map (·.viewFailures.map fun f => (f.view, f.failure.message)) =
        [[("pg_settings", "error connecting to server\n> querying pg_settings"),
          ("pg_settings", "error connecting to server\n> running query on namespace pg_settings")]] ∧
      ∃ tree entry, JsonTree.read (JsonReport.text run.2.1) = some tree ∧
        tree.field? "targets" = some (.array [entry]) ∧ JsonReport.viewsOf entry =
          [("pg_settings", .string "error connecting to server\n> running query on namespace pg_settings")] := by
  intro content replies e run
  have failed : run.2.1.reports.map (·.viewFailures.map fun f => (f.view, f.failure.message)) =
      [[("pg_settings", "error connecting to server\n> querying pg_settings"),
        ("pg_settings", "error connecting to server\n> running query on namespace pg_settings")]] := by
    decide +kernel
  obtain ⟨r, one, messages⟩ := List.map_eq_singleton_iff.1 failed
  have targets := JsonReport.targets_document run.2.1
  rw [one] at targets
  refine ⟨runs_play _ _ _, failed, _, _, JsonTree.read_text _, targets, ?_⟩
  have written : JsonReport.viewMessages r =
      (r.viewFailures.map fun f => (f.view, f.failure.message)).map fun p => (p.1, .string p.2) := by
    rw [List.map_map]
    rfl
  rw [JsonReport.viewsOf_target, written, messages]
  rfl

end Exporter

end PgMetrics
