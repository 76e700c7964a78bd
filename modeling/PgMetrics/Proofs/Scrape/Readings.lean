import PgMetrics.Proofs.Scrape.Cycles

namespace PgMetrics

open Dialogue

variable {σ : Type}

namespace Connection

/-- The view that an entry of the views stands for with its query, unless the query is disabled. -/
def view? (c : Connection) (emitUntyped : Bool) (entry : String × ViewMap) : Option (View × String) :=
  ((QueryChoice.of c.state.maps.queries entry.1).sql entry.1).map
    fun sql => (⟨entry.1, entry.2, c.labels, emitUntyped⟩, sql)

/-- The views of a connection in the order in which they are read, each with its query. -/
def views (c : Connection) (emitUntyped : Bool) : List (View × String) :=
  c.state.maps.views.entries.filterMap (c.view? emitUntyped)

theorem sources_eq (c : Connection) (o : Options) :
    c.sources o = (if o.disableSettingsMetrics then [] else [.settings c.labels]) ++
      (c.views o.emitUntypedColumns).map fun q => .ofView q.1 q.2 := by
  rw [sources, views, List.map_filterMap]
  congr 2
  funext entry
  rw [source?, view?, Option.map_map]
  rfl

theorem views_labels {c : Connection} {emitUntyped : Bool} {q : View × String} (member : q ∈ c.views emitUntyped) :
    q.1.labels = c.labels := by
  obtain ⟨entry, -, atEntry⟩ := List.mem_filterMap.1 member
  obtain ⟨sql, -, rfl⟩ := Option.map_eq_some_iff.1 atEntry
  rfl

theorem views_nodup (c : Connection) (emitUntyped : Bool) : (c.views emitUntyped).Pairwise (·.1.name ≠ ·.1.name) := by
  rw [views, List.pairwise_filterMap]
  refine c.state.maps.views.sorted.imp ?_
  intro first second lt q atFirst q' atSecond
  obtain ⟨_, _, rfl⟩ := Option.map_eq_some_iff.1 atFirst
  obtain ⟨_, _, rfl⟩ := Option.map_eq_some_iff.1 atSecond
  exact String.ne_of_lt lt

end Connection

/-- What is read of a target: nothing without a connection, and else the version, the settings and the views. -/
inductive Reading where
  | unconnected (dsn : String) (failure : Failure)
  | connected (dsn : String) (connection : Connection) (version : Except Failure (Option Sample))
      (settings : Option (Except Failure Answer)) (views : List ((View × String) × Except Failure Answer))

namespace Reading

def dsn : Reading → String
  | unconnected x _ => x
  | connected x .. => x

def parts (c : Connection) (settings : Option (Except Failure Answer))
    (views : List ((View × String) × Except Failure Answer)) : List Part :=
  settings.toList.map (⟨.settings c.labels, ·⟩) ++ views.map fun q => ⟨.ofView q.1.1 q.1.2, q.2⟩

def report : Reading → TargetReport
  | unconnected x f => { target := Dsn.redact x, connectionFailure := some f }
  | connected x c version settings views =>
    (Exporter.addVersion { target := Dsn.redact x } version).withParts (parts c settings views)

end Reading

namespace Exporter

variable {address : Session → σ} {e e' : Exporter} {x : String} {t : List (Exchange σ)} {r : TargetReport}

/-- A pass over one target with what it reads. -/
inductive Reads (address : Session → σ) (e : Exporter) : List (Exchange σ) → Reading → Exporter → Prop
  | unconnected {t x f registry} : e.registry.Acquires address x t (.error f) registry →
      Reads address e (t ++ [.logged (.openingFailed (Dsn.redact x) f)]) (.unconnected x f) { e with registry }
  | connected {t t' x c registry outcome state loader settings views} :
      e.registry.Acquires address x t (.ok c) registry →
      e.plan.Refreshes address c e.loader t' outcome state loader →
      settings.isSome = !e.options.disableSettingsMetrics →
      views.map (·.1) = Connection.views { c with state } e.options.emitUntypedColumns →
      Reads address e
        (t ++ (t' ++ remainder address { c with state } outcome (Reading.parts { c with state } settings views)))
        (.connected x { c with state } outcome settings views)
        { e with registry := registry.add c.target.dsn { c with state }, loader }

/-- The parts of a connection are those of its settings and of its views. -/
theorem exists_parts {c : Connection} {o : Options} {parts : List Part} (sources : parts.map (·.source) = c.sources o) :
    ∃ settings views, parts = Reading.parts c settings views ∧ settings.isSome = !o.disableSettingsMetrics ∧
      views.map (·.1) = c.views o.emitUntypedColumns := by
  have ofViews {qs : List (View × String)} {parts : List Part}
      (sources : parts.map (·.source) = qs.map fun q => .ofView q.1 q.2) :
      ∃ views : List ((View × String) × Except Failure Answer),
        parts = views.map (fun q => ⟨.ofView q.1.1 q.1.2, q.2⟩) ∧ views.map (·.1) = qs := by
    induction qs generalizing parts with
    | nil => exact ⟨[], List.map_eq_nil_iff.1 sources, rfl⟩
    | cons q qs ih =>
      obtain ⟨⟨_, outcome⟩, others, rfl, rfl, rest⟩ := List.map_eq_cons_iff.1 sources
      obtain ⟨views, rfl, rfl⟩ := ih rest
      exact ⟨(q, outcome) :: views, rfl, rfl⟩
  rw [Connection.sources_eq] at sources
  cases disabled : o.disableSettingsMetrics with
  | true =>
    rw [disabled, if_pos rfl, List.nil_append] at sources
    obtain ⟨views, rfl, atViews⟩ := ofViews sources
    exact ⟨none, views, rfl, rfl, atViews⟩
  | false =>
    rw [disabled, if_neg (by decide), List.singleton_append] at sources
    obtain ⟨⟨_, outcome⟩, others, rfl, rfl, rest⟩ := List.map_eq_cons_iff.1 sources
    obtain ⟨views, rfl, atViews⟩ := ofViews rest
    exact ⟨some outcome, views, rfl, rfl, atViews⟩

theorem sources_parts {c : Connection} {o : Options} {settings : Option (Except Failure Answer)}
    {views : List ((View × String) × Except Failure Answer)} (some_ : settings.isSome = !o.disableSettingsMetrics)
    (atViews : views.map (·.1) = c.views o.emitUntypedColumns) :
    (Reading.parts c settings views).map (·.source) = c.sources o := by
  rw [Connection.sources_eq, ← atViews, Reading.parts, List.map_append, List.map_map, List.map_map, List.map_map]
  congr 1
  cases settings <;> cases disabled : o.disableSettingsMetrics <;> simp_all

theorem passes_iff_reads :
    Passes address e x t r e' ↔ ∃ reading, reading.dsn = x ∧ reading.report = r ∧ Reads address e t reading e' := by
  constructor
  · intro passes
    cases passes with
    | unconnected acquires => exact ⟨_, rfl, rfl, .unconnected acquires⟩
    | connected acquires refreshes sources =>
      obtain ⟨settings, views, rfl, some_, atViews⟩ := exists_parts sources
      exact ⟨_, rfl, rfl, .connected acquires refreshes some_ atViews⟩
  · rintro ⟨reading, rfl, rfl, reads⟩
    cases reads with
    | unconnected acquires => exact .unconnected acquires
    | connected acquires refreshes some_ atViews =>
      exact .connected acquires refreshes (sources_parts some_ atViews)

/-- Passes one after the other with what they read. -/
inductive Sweeps (address : Session → σ) : Exporter → List (Exchange σ) → List Reading → Exporter → Prop
  | nil {e : Exporter} : Sweeps address e [] [] e
  | cons {e e₁ e' : Exporter} {t t' : List (Exchange σ)} {reading readings} : Reads address e t reading e₁ →
      Sweeps address e₁ t' readings e' → Sweeps address e (t ++ t') (reading :: readings) e'

theorem runs_scrapeTargets {xs : List String} {rs : List TargetReport} :
    Runs (e.scrapeTargets (world address) xs) t (rs, e') ↔
      ∃ readings, readings.map (·.dsn) = xs ∧ readings.map (·.report) = rs ∧ Sweeps address e t readings e' := by
  constructor
  · intro run
    induction xs generalizing e t rs with
    | nil =>
      obtain ⟨rfl, same⟩ := runs_pure.1 run
      cases same
      exact ⟨[], rfl, rfl, .nil⟩
    | cons x xs ih =>
      obtain ⟨t₁, r, e₁, t₂, rs', passes, others, rfl, rfl⟩ := runs_scrapeTargets_cons run
      obtain ⟨reading, rfl, rfl, reads⟩ := passes_iff_reads.1 passes
      obtain ⟨readings, rfl, rfl, sweeps⟩ := ih others
      exact ⟨reading :: readings, rfl, rfl, .cons reads sweeps⟩
  · rintro ⟨readings, rfl, rfl, sweeps⟩
    induction sweeps with
    | nil => exact .done
    | cons reads _ ih =>
      have passes := runs_scrapeTarget.2 (passes_iff_reads.2 ⟨_, rfl, rfl, reads⟩)
      refine runs_bind.2 ⟨_, _, _, passes, runs_bind.2 ⟨_, _, _, ih, .done, ?_⟩, rfl⟩
      exact (List.append_nil _).symm

/-- A scrape of all targets with what is read of each. -/
inductive Gathers (address : Session → σ) (e : Exporter) : Cycle σ → List Reading → Exporter → Prop
  | mk {start finish t₁ t₂ readings e₁ e₂} : Runs (e.targets (world address)) t₁ (readings.map Reading.dsn, e₁) →
      Sweeps address e₁ t₂ readings e₂ →
      Gathers address e
        ⟨⟨.clock, start⟩ :: (t₁ ++ (t₂ ++ [⟨.clock, finish⟩])), readings.map Reading.dsn,
          ⟨readings.map Reading.report,
            (e₂.count (readings.map Reading.report)).operational (readings.map Reading.report) (finish - start)⟩⟩
        readings (e₂.count (readings.map Reading.report))

theorem scrapes_iff_gathers {cycle : Cycle σ} :
    Scrapes address e cycle e' ↔ ∃ readings, Gathers address e cycle readings e' := by
  constructor
  · intro scrapes
    cases scrapes with
    | mk chosen scraped =>
      obtain ⟨readings, rfl, rfl, sweeps⟩ := runs_scrapeTargets.1 scraped
      exact ⟨readings, .mk chosen sweeps⟩
  · rintro ⟨readings, gathers⟩
    cases gathers with
    | mk chosen sweeps => exact .mk chosen (runs_scrapeTargets.2 ⟨_, rfl, rfl, sweeps⟩)

theorem Gathers.eq {cycle : Cycle σ} {readings : List Reading} (gathers : Gathers address e cycle readings e') :
    cycle.targets = readings.map (·.dsn) ∧ cycle.snapshot.reports = readings.map (·.report) ∧
      ∃ seconds, cycle.snapshot.operational = e'.operational cycle.snapshot.reports seconds := by
  cases gathers
  exact ⟨rfl, rfl, _, rfl⟩

end Exporter

end PgMetrics
