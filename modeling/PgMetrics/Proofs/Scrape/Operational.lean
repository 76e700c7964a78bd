import PgMetrics.Proofs.Decimal.Exact
import PgMetrics.Proofs.Scrape.Invariants
import PgMetrics.Proofs.Scrape.Series

namespace PgMetrics

open Dialogue

variable {σ : Type}

/-- The number that a sample has for its value. -/
def Sample.number? (s : Sample) : Option ℚ :=
  (Binary64.ofFloat s.value).toRat?

/-- The numbers that the exporter gives of itself under a name. -/
def Snapshot.own (s : Snapshot) (name : String) : List (Option ℚ) :=
  (s.operational.filter (·.name == name)).map (·.number?)

/-- Whether there was a connection to read from. -/
def Reading.isConnected : Reading → Bool
  | unconnected .. => false
  | connected .. => true

theorem Reading.isConnected_report (reading : Reading) : reading.report.isConnected = reading.isConnected := by
  cases reading with
  | unconnected => rfl
  | connected x c version settings views => cases version <;> rfl

/-- How many values of a cycle could not be converted. -/
def Cycle.valueErrors (d : Cycle σ) : Nat :=
  (d.snapshot.reports.map (·.valueErrors.length)).sum

theorem number?_flag (b : Bool) : (Binary64.ofFloat (Sample.flag b)).toRat? = some (if b then 1 else 0) := by
  cases b with
  | true =>
    have one : Binary64.ofFloat 1.0 = .finite false (2 ^ 52) (-52) := by decide +kernel
    rw [Sample.flag, if_pos rfl, one, Binary64.toRat?]
    norm_num
  | false =>
    have zero : Binary64.ofFloat 0.0 = .finite false 0 (-1074) := by decide +kernel
    rw [Sample.flag, if_neg (by decide), zero, Binary64.toRat?]
    norm_num

namespace Exporter

variable {address : Session → σ} {e e' : Exporter} {x : String} {t : List (Exchange σ)} {r : TargetReport}
  {o : Options} {catalog : Catalog} {dsns : List String} {cycles : List (Cycle σ)} {cycle : Cycle σ}
  {readings : List Reading}

/-- Which maps there are and how the document stands, where `contents` were read and `ys` were refreshed: the first of
them had the document loaded. -/
structure Loads (path? : Option String) (contents : List Content) (ys : List String) (e : Exporter) : Prop where
  keyed : e.registry.Keyed
  file : e.loader.map (·.path) = path?
  unbuilt : e.loader ≠ none → e.documentStatus = none → ∀ y, (e.registry.state y).version = none
  silent : ys = [] → e.documentStatus = none
  said : ∀ path, path? = some path → ys ≠ [] → ∃ c ∈ contents, e.documentStatus = some (c.status path)

variable {path? : Option String} {contents contents' : List Content} {ys : List String}

/-- Maps may be lost without another word about the document. -/
theorem Loads.of_states (loads : Loads path? contents ys e) (keyed : e'.registry.Keyed) (loader : e'.loader = e.loader)
    (states : ∀ y, e'.registry.state y = e.registry.state y ∨ e'.registry.state y = {}) :
    Loads path? (contents ++ contents') ys e' := by
  have status : e'.documentStatus = e.documentStatus := by rw [documentStatus, loader]; rfl
  refine ⟨keyed, loader ▸ loads.file, ?_, status ▸ loads.silent, ?_⟩
  · intro there none y
    rw [loader] at there
    obtain kept | lost := states y
    · rw [kept, loads.unbuilt there (status ▸ none)]
    · rw [lost]
  · intro path document some_
    obtain ⟨c, member, said⟩ := loads.said path document some_
    exact ⟨c, List.mem_append_left _ member, status ▸ said⟩

theorem Loads.pass (loads : Loads path? contents ys e) (passes : Passes address e x t r e') :
    Loads path? (contents ++ t.filterMap Exchange.content?) (ys ++ refreshedOf x r) e' := by
  obtain ⟨keyed, others, ⟨failed, loader, same⟩ | ⟨done, v, content, read, memT, advanced⟩⟩ :=
    passes.refreshed_cases loads.keyed
  · rw [refreshedOf, failed, if_neg (by decide), List.append_nil]
    refine loads.of_states keyed loader fun y => ?_
    by_cases atX : y = x
    · exact atX ▸ same
    · exact .inl (others y atX)
  · rw [refreshedOf, done, if_pos rfl]
    have some_ : ys ++ [x] ≠ [] := by simp
    have file := loads.file
    cases atL : e.loader with
    | none =>
      rw [atL] at read advanced file
      obtain rfl : content = none := by simpa using read
      have loader : e'.loader = none := by
        unfold Plan.advance at advanced
        dsimp only at advanced
        split at advanced <;> exact (congrArg Prod.snd advanced).symm
      refine ⟨keyed, by rw [loader]; exact file, fun there => absurd loader there, fun none => absurd none some_, ?_⟩
      intro path document
      rw [document] at file
      cases file
    | some l =>
      rw [atL] at read advanced file
      obtain rfl : some l.path = path? := file
      obtain ⟨c, rfl⟩ := Option.isSome_iff_exists.1 read
      obtain ⟨-, -, ⟨kept, built, -⟩ | load⟩ := Plan.advance_cases advanced
      · -- The target had maps, so that the document was loaded before.
        have before : e.documentStatus ≠ none := by
          intro none
          rw [loads.unbuilt (by simp [atL]) none x] at built
          cases built
        have status : e'.documentStatus = e.documentStatus := by rw [documentStatus, kept, documentStatus, atL]
        refine ⟨keyed, by rw [kept]; rfl, fun _ none => absurd (status ▸ none) before, fun none => absurd none some_, ?_⟩
        rintro path ⟨⟩ -
        obtain ⟨c, member, said⟩ := loads.said l.path rfl fun nothing => before (loads.silent nothing)
        exact ⟨c, List.mem_append_left _ member, status ▸ said⟩
      · have status : e'.documentStatus = some (c.status l.path) := by rw [documentStatus, load]; rfl
        refine ⟨keyed, by rw [load]; rfl, ?_, fun none => absurd none some_, ?_⟩
        · intro _ none
          rw [status] at none
          cases none
        · rintro path ⟨⟩ -
          exact ⟨c, List.mem_append_right _ (memT c rfl), status⟩

theorem loads_kept : Kept address (Loads path?) where
  renews loads renews _ loader := loads.of_states (loads.keyed.of_renews renews) loader renews.state
  pass := Loads.pass

theorem loads_of (catalog : Catalog) (o : Options) (dsns : List String) :
    Loads o.extensionPath [] [] (Exporter.of catalog o dsns) := by
  refine ⟨Registry.keyed_new _, ?_, fun _ _ _ => rfl, fun _ => ?_, fun _ _ none => absurd rfl none⟩
  · cases document : o.extensionPath <;> simp [Exporter.of, document]
  · cases document : o.extensionPath <;> simp [Exporter.of, documentStatus, document]

theorem Rounds.loads (run : Rounds address (Exporter.of catalog o dsns) cycles e) :
    Loads o.extensionPath (cycles.flatMap (·.contents)) (cycles.flatMap (·.refreshed)) e :=
  loads_kept.rounds (loads_of catalog o dsns) run

/-- Choosing targets and scraping them counts nothing. -/
theorem counters_of_targets {xs : List String} (run : Runs (e.targets (world address)) t (xs, e')) :
    e'.scrapes = e.scrapes ∧ e'.valueErrors = e.valueErrors := by
  unfold targets at run
  split at run
  · obtain ⟨_, ⟨found, registry⟩, _, _, ended, rfl⟩ := runs_bind.1 run
    obtain ⟨rfl, same⟩ := runs_pure.1 ended
    cases same
    exact ⟨rfl, rfl⟩
  · obtain ⟨rfl, same⟩ := runs_pure.1 run
    cases same
    exact ⟨rfl, rfl⟩

theorem Sweeps.counters (sweeps : Sweeps address e t readings e') :
    e'.scrapes = e.scrapes ∧ e'.valueErrors = e.valueErrors := by
  induction sweeps with
  | nil => exact ⟨rfl, rfl⟩
  | cons reads _ ih =>
    obtain ⟨scrapes, errors⟩ := ih
    rw [scrapes, errors]
    cases reads <;> exact ⟨rfl, rfl⟩

theorem Scrapes.counters (scrapes : Scrapes address e cycle e') :
    e'.scrapes = e.scrapes + 1 ∧ e'.valueErrors = e.valueErrors + cycle.valueErrors := by
  obtain ⟨readings, gathers⟩ := scrapes_iff_gathers.1 scrapes
  cases gathers with
  | mk chosen sweeps =>
    obtain ⟨scrapes₁, errors₁⟩ := counters_of_targets chosen
    obtain ⟨scrapes₂, errors₂⟩ := sweeps.counters
    rw [count, Cycle.valueErrors, scrapes₂, scrapes₁, errors₂, errors₁, List.length_flatMap]
    exact ⟨rfl, rfl⟩

theorem Rounds.counters (run : Rounds address e cycles e') :
    e'.scrapes = e.scrapes + cycles.length ∧ e'.valueErrors = e.valueErrors + (cycles.map (·.valueErrors)).sum := by
  induction run with
  | start => exact ⟨rfl, rfl⟩
  | next _ last ih =>
    obtain ⟨scrapes, errors⟩ := last.counters
    rw [scrapes, errors, ih.1, ih.2, List.length_append, List.map_append, List.sum_append]
    exact ⟨rfl, by simp [Nat.add_assoc]⟩

/-- What is said under each name is what was counted. -/
theorem own_operational {s : Snapshot} {seconds : Float} (operational : s.operational = e.operational s.reports seconds) :
    s.own "pg_up" = [some (if s.reports.any (·.isConnected) then 1 else 0)] ∧
      s.own "pg_exporter_last_scrape_error" = [some (if s.reports.any (·.hasFailures) then 1 else 0)] ∧
      (e.scrapes < 2 ^ 53 → s.own "pg_exporter_scrapes_total" = [some (e.scrapes : ℚ)]) ∧
      (e.valueErrors < 2 ^ 53 → s.own "pg_exporter_value_errors_total" = [some (e.valueErrors : ℚ)]) := by
  unfold Snapshot.own
  rw [operational, Exporter.operational, ← number?_flag, ← number?_flag]
  refine ⟨?_, ?_, fun few => ?_, fun few => ?_⟩
  · cases e.documentStatus <;> rfl
  · cases e.documentStatus <;> rfl
  · rw [← Binary64.toRat?_ofNat few]
    cases e.documentStatus <;> rfl
  · rw [← Binary64.toRat?_ofNat few]
    cases e.documentStatus <;> rfl

/-- In the snapshot of a cycle after others, the gauges are those of the cycle and the counters those of all cycles. -/
theorem Rounds.own (run : Rounds address (Exporter.of catalog o dsns) cycles e)
    (last : Gathers address e cycle readings e') (fewCycles : cycles.length + 1 < 2 ^ 53)
    (fewErrors : ((cycles ++ [cycle]).map (·.valueErrors)).sum < 2 ^ 53) :
    cycle.snapshot.own "pg_up" = [some (if ∃ reading ∈ readings, reading.isConnected then 1 else 0)] ∧
      cycle.snapshot.own "pg_exporter_last_scrape_error" = [some (if ∃ r ∈ cycle.snapshot.reports,
        r.connectionFailure ≠ none ∨ r.versionFailure ≠ none ∨ r.viewFailures ≠ [] then 1 else 0)] ∧
      cycle.snapshot.own "pg_exporter_scrapes_total" = [some ((cycles.length + 1 : Nat) : ℚ)] ∧
      cycle.snapshot.own "pg_exporter_value_errors_total" =
        [some ((((cycles ++ [cycle]).map (·.valueErrors)).sum : Nat) : ℚ)] := by
  have scrapes := scrapes_iff_gathers.2 ⟨readings, last⟩
  obtain ⟨total, errors⟩ := (run.next scrapes).counters
  rw [List.length_append, List.length_singleton, Exporter.of, Nat.zero_add] at total
  rw [Exporter.of, Nat.zero_add] at errors
  obtain ⟨-, reports, seconds, operational⟩ := last.eq
  obtain ⟨up, error, counted, rejected⟩ := own_operational operational
  have connected : cycle.snapshot.reports.any (·.isConnected) = true ↔
      ∃ reading ∈ readings, reading.isConnected := by
    simp [reports, Reading.isConnected_report]
  have failed : cycle.snapshot.reports.any (·.hasFailures) = true ↔ ∃ r ∈ cycle.snapshot.reports,
      r.connectionFailure ≠ none ∨ r.versionFailure ≠ none ∨ r.viewFailures ≠ [] := by
    simp [TargetReport.hasFailures, Option.isSome_iff_ne_none, or_assoc]
  rw [up, error, counted (by omega), rejected (by omega), total, errors]
  simp only [connected, failed]
  exact ⟨trivial, trivial, trivial, trivial⟩

/-- The document is spoken of once a target was refreshed, if there is one. -/
theorem Rounds.indicators (run : Rounds address (Exporter.of catalog o dsns) cycles e)
    (last : Scrapes address e cycle e') :
    (cycle.snapshot.indicators ≠ [] ↔ o.extensionPath ≠ none ∧ ∃ d ∈ cycles ++ [cycle], d.refreshed ≠ []) ∧
      ∀ path, o.extensionPath = some path → cycle.snapshot.indicators ≠ [] →
        ∃ d ∈ cycles ++ [cycle], ∃ c ∈ d.contents, cycle.snapshot.Describes o path c := by
  have loads := (run.next last).loads
  obtain ⟨readings, gathers⟩ := scrapes_iff_gathers.1 last
  obtain ⟨-, -, seconds, operational⟩ := gathers.eq
  have shown : cycle.snapshot.indicators = (e'.documentStatus.map e'.documentSample).toList := by
    have said := indicators_operational e' cycle.snapshot.reports seconds
    rwa [← operational] at said
  have options : e'.options = o := by
    rw [Exporter.options, (run.next last).constant.plan]
  have spoken : cycle.snapshot.indicators ≠ [] ↔ e'.documentStatus ≠ none := by
    rw [shown]
    cases e'.documentStatus <;> simp
  have some_ : (cycles ++ [cycle]).flatMap (·.refreshed) ≠ [] ↔ ∃ d ∈ cycles ++ [cycle], d.refreshed ≠ [] := by
    simp only [ne_eq, List.flatMap_eq_nil_iff, not_forall, exists_prop]
  rw [spoken, ← some_]
  refine ⟨⟨fun known => ⟨?_, fun none => known (loads.silent none)⟩, ?_⟩, ?_⟩
  · intro undocumented
    have loader : e'.loader = none := by simpa [undocumented] using loads.file
    exact known (by rw [documentStatus, loader]; rfl)
  · rintro ⟨documented, refreshed⟩
    obtain ⟨path, document⟩ := Option.ne_none_iff_exists'.1 documented
    obtain ⟨c, _, said⟩ := loads.said path document refreshed
    rw [said]
    exact Option.some_ne_none _
  · intro path document known
    obtain ⟨c, member, said⟩ := loads.said path document fun none => known (loads.silent none)
    obtain ⟨d, inCycles, inCycle⟩ := List.mem_flatMap.1 member
    exact ⟨d, inCycles, c, inCycle, describes_of_status options shown said⟩

/-- In the snapshot of each cycle the exporter says whether it was connected in it and whether something failed, how
many cycles there were by then and how many values they could not convert, which never becomes less, and how its
document fares if there is one and a target was refreshed by then. -/
theorem operational_summarises_run (run : Rounds address (Exporter.of catalog o dsns) cycles e)
    (last : Gathers address e cycle readings e') (fewCycles : cycles.length + 1 < 2 ^ 53)
    (fewErrors : ((cycles ++ [cycle]).map (·.valueErrors)).sum < 2 ^ 53) :
    cycle.snapshot.own "pg_up" = [some (if ∃ reading ∈ readings, reading.isConnected then 1 else 0)] ∧
      cycle.snapshot.own "pg_exporter_last_scrape_error" = [some (if ∃ r ∈ cycle.snapshot.reports,
        r.connectionFailure ≠ none ∨ r.versionFailure ≠ none ∨ r.viewFailures ≠ [] then 1 else 0)] ∧
      cycle.snapshot.own "pg_exporter_scrapes_total" = [some ((cycles.length + 1 : Nat) : ℚ)] ∧
      cycle.snapshot.own "pg_exporter_value_errors_total" =
        [some ((((cycles ++ [cycle]).map (·.valueErrors)).sum : Nat) : ℚ)] ∧
      (∀ d ∈ cycles, ∃ before now, d.snapshot.own "pg_exporter_value_errors_total" = [some before] ∧
        cycle.snapshot.own "pg_exporter_value_errors_total" = [some now] ∧ before ≤ now) ∧
      (cycle.snapshot.indicators ≠ [] ↔ o.extensionPath ≠ none ∧ ∃ d ∈ cycles ++ [cycle], d.refreshed ≠ []) ∧
      ∀ path, o.extensionPath = some path → cycle.snapshot.indicators ≠ [] →
        ∃ d ∈ cycles ++ [cycle], ∃ c ∈ d.contents, cycle.snapshot.Describes o path c := by
  obtain ⟨up, error, counted, rejected⟩ := run.own last fewCycles fewErrors
  refine ⟨up, error, counted, rejected, ?_, run.indicators (scrapes_iff_gathers.2 ⟨readings, last⟩)⟩
  intro d member
  obtain ⟨before, after, e₁, e₂, rfl, run₁, scrapes⟩ := run.exists_of_mem member
  obtain ⟨readings₁, gathers⟩ := scrapes_iff_gathers.1 scrapes
  have fewer : ((before ++ [d]).map (·.valueErrors)).sum ≤
      (((before ++ d :: after) ++ [cycle]).map (·.valueErrors)).sum := by
    simp only [List.map_append, List.sum_append, List.map_cons, List.sum_cons, List.map_nil, List.sum_nil]
    omega
  obtain ⟨-, -, -, rejected₁⟩ := run₁.own gathers (by simp at fewCycles; omega) (by omega)
  exact ⟨_, _, rejected₁, rejected, by exact_mod_cast fewer⟩

/-- Two cycles of two targets that have a value that is no number; one of them cannot be reached in the first. -/
theorem operational_after_unreachable_target :
    let o : Options := { disableSettingsMetrics := true, extensionPath := some "q.yaml" }
    let catalog : Catalog := { views := ⟨[("pg_x", [⟨"n", .counter, "", none, none⟩])], by decide⟩ }
    let answer (sql : String) : Answer :=
      if sql = Banner.query then ⟨["version"], [[.text "PostgreSQL 11.2"]]⟩ else ⟨["n"], [[.text "many"]]⟩
    let replies (n : Nat) := Request.replyOf
      (fun x => if n = 0 ∧ x = "host=b" then .error (.of (.database .unreachable)) else .ok ())
      (fun _ sql => .ok (answer sql)) (.error .notFound)
    let run (n : Nat) (e : Exporter) := play (fun _ => replies n) [] (e.scrape (world Session.dsn))
    let first := run 0 (Exporter.of catalog o ["host=a", "host=b"])
    let second := run 1 first.2.2
    let cycle (run : List (Exchange String) × Snapshot × Exporter) : Cycle String :=
      ⟨run.1, ["host=a", "host=b"], run.2.1⟩
    let s := (cycle second).snapshot
    s.own "pg_up" = [some 1] ∧ s.own "pg_exporter_last_scrape_error" = [some 0] ∧
      s.own "pg_exporter_scrapes_total" = [some 2] ∧ s.own "pg_exporter_value_errors_total" = [some 3] ∧
      ∃ c, s.Describes o "q.yaml" c := by
  intro o catalog answer replies run first second cycle s
  have earlier : Rounds Session.dsn (Exporter.of catalog o ["host=a", "host=b"]) [cycle first] first.2.2 :=
    Rounds.start.next (.of_play rfl rfl rfl)
  have scrapes : Scrapes Session.dsn first.2.2 (cycle second) second.2.2 :=
    .of_play (by decide +kernel) (by decide +kernel) rfl
  obtain ⟨readings, last⟩ := scrapes_iff_gathers.1 scrapes
  have total : (([cycle first] ++ [cycle second]).map Cycle.valueErrors).sum = 3 := by decide +kernel
  have connected : ∃ reading ∈ readings, reading.isConnected := by
    have some_ : (cycle second).snapshot.reports.any (·.isConnected) = true := by decide +kernel
    rw [last.eq.2.1] at some_
    simpa [Reading.isConnected_report] using some_
  have unfailed : ¬∃ r ∈ (cycle second).snapshot.reports,
      r.connectionFailure ≠ none ∨ r.versionFailure ≠ none ∨ r.viewFailures ≠ [] := by
    decide +kernel
  have refreshed : (cycle second).refreshed ≠ [] := by decide +kernel
  obtain ⟨up, error, counted, rejected, -, spoken, described⟩ :=
    operational_summarises_run earlier last (by decide) (by rw [total]; decide)
  rw [if_pos connected] at up
  rw [if_neg unfailed] at error
  rw [total] at rejected
  obtain ⟨_, -, c, -, describes⟩ := described "q.yaml" rfl (spoken.2 ⟨by decide, cycle second, by simp, refreshed⟩)
  exact ⟨up, error, counted, rejected, c, describes⟩

end Exporter

end PgMetrics
