import PgMetrics.Proofs.Dialogue
import PgMetrics.Scrape.Exporter

namespace PgMetrics

open Dialogue

variable {σ : Type}

/-- Whether a query got no answer, or one with a row of another width. -/
def Answer.misfits (width : Answer → Nat) : Except Failure Answer → Bool
  | .ok a => a.rows.any fun row => row.length != width a
  | .error _ => true

namespace Settings

theorem ofRow?_eq_none_iff (row : List Cell) : ofRow? row = none ↔ row.length ≠ 5 := by
  obtain _ | ⟨_, _ | ⟨_, _ | ⟨_, _ | ⟨_, _ | ⟨_, _ | _⟩⟩⟩⟩⟩ := row <;> simp [ofRow?]

theorem exists_ofRow? {row : List Cell} (fits : row.length = 5) : ∃ s, ofRow? row = some s := by
  cases read : ofRow? row with
  | none => exact absurd fits ((ofRow?_eq_none_iff row).1 read)
  | some s => exact ⟨s, rfl⟩

theorem collectSetting_failure (labels : Labels) (s : Setting) : (collectSetting labels s).failure = none := by
  unfold collectSetting
  split <;> rfl

theorem collectSetting_append_failure (labels : Labels) (s : Setting) (c : Collected) :
    (collectSetting labels s ++ c).failure = c.failure := by
  change (collectSetting labels s).failure.or c.failure = c.failure
  rw [collectSetting_failure, Option.none_or]

theorem collect_failure (labels : Labels) (outcome : Except Failure Answer) :
    (collect labels outcome).failure.isSome = Answer.misfits (fun _ => 5) outcome := by
  cases outcome with
  | error e => rfl
  | ok a =>
    simp only [collect, Answer.misfits]
    induction a.rows with
    | nil => rfl
    | cons row rows ih =>
      simp only [collectRows, List.any_cons]
      by_cases fits : row.length = 5
      · obtain ⟨s, read⟩ := exists_ofRow? fits
        simp only [read, fits, bne_self_eq_false, Bool.false_or, ← ih]
        cases rest : (collectRows labels rows).failure with
        | some e => rfl
        | none => rw [collectSetting_append_failure, rest]
      · simp [(ofRow?_eq_none_iff row).2 fits, Collected.failed, fits]

end Settings

namespace View

theorem collectCell_failure (v : View) (labels : Labels) (column : String) (cell : Cell) :
    (v.collectCell labels column cell).failure = none := by
  unfold collectCell
  split
  · unfold declaredCell
    split
    · rfl
    · dsimp only
      split <;> rfl
  · unfold undeclaredCell
    split
    · split <;> rfl
    · rfl

theorem collectCells_failure (v : View) (labels : Labels) (cells : List (String × Cell)) :
    (v.collectCells labels cells).failure = none := by
  induction cells with
  | nil => rfl
  | cons cell cells ih =>
    change ((v.collectCell labels cell.1 cell.2).failure.or (v.collectCells labels cells).failure) = none
    rw [collectCell_failure, ih]
    rfl

theorem collect_failure (v : View) (outcome : Except Failure Answer) :
    (v.collect outcome).failure.isSome = Answer.misfits (·.columns.length) outcome := by
  cases outcome with
  | error e => rfl
  | ok a =>
    simp only [collect, Answer.misfits]
    induction a.rows with
    | nil => rfl
    | cons row rows ih =>
      simp only [collectRows, List.any_cons]
      split
      · rename_i right
        change ((v.collectCells _ _).failure.or (v.collectRows a.columns rows).failure).isSome = _
        rw [collectCells_failure, Option.none_or, ih]
        simp [right]
      · rename_i wrong
        simp [Collected.failed, wrong]

end View

/-- What is read with one query, with what its answer gives. -/
structure Source where
  name : String
  sql : String
  /-- How many cells the rows of an answer must have. -/
  width : Answer → Nat
  collect : Except Failure Answer → Collected
  /-- What is logged of a failure at a target. -/
  failureLog : String → Failure → LogEntry
  collect_failure : ∀ outcome, (collect outcome).failure.isSome = Answer.misfits width outcome

namespace Source

def settings (labels : Labels) : Source where
  name := Settings.view
  sql := Settings.query
  width _ := 5
  collect := Settings.collect labels
  failureLog := .settingsFailed
  collect_failure := Settings.collect_failure labels

def ofView (v : View) (sql : String) : Source where
  name := v.name
  sql
  width a := a.columns.length
  collect := v.collect
  failureLog := .viewFailed v.name
  collect_failure := v.collect_failure

end Source

/-- A source with the outcome of its query. -/
structure Part where
  source : Source
  outcome : Except Failure Answer

namespace Part

def collected (p : Part) : Collected :=
  p.source.collect p.outcome

/-- A part fails when its query does, or when a row has another width. -/
def fails (p : Part) : Bool :=
  Answer.misfits p.source.width p.outcome

def failures (p : Part) : List ViewFailure :=
  (p.collected.failure.map (ViewFailure.mk p.source.name)).toList

def log (p : Part) (target : String) : List LogEntry :=
  p.collected.log ++ (p.collected.failure.map (p.source.failureLog target)).toList

def exchange (s : σ) (p : Part) : Exchange σ :=
  ⟨.query s p.source.sql, p.outcome⟩

/-- All exchanges over a part: its query, then the log. -/
def exchanges (address : Session → σ) (c : Connection) (p : Part) : List (Exchange σ) :=
  p.exchange (address c.session) :: (p.log c.target.fingerprint).map .logged

theorem failures_view (p : Part) :
    p.failures.map (·.view) = if p.fails then [p.source.name] else [] := by
  have failed := p.source.collect_failure p.outcome
  unfold failures fails collected
  rw [← failed]
  cases (p.source.collect p.outcome).failure <;> rfl

end Part

namespace TargetReport

/-- The report with what some parts give, one after the other. -/
def withParts (r : TargetReport) (parts : List Part) : TargetReport :=
  { r with
    samples := r.samples ++ parts.flatMap (·.collected.samples)
    valueErrors := r.valueErrors ++ parts.flatMap (·.collected.valueErrors)
    viewFailures := r.viewFailures ++ parts.flatMap (·.failures) }

@[simp] theorem withParts_nil (r : TargetReport) : r.withParts [] = r := by
  simp [withParts]

theorem withParts_cons (r : TargetReport) (p : Part) (parts : List Part) :
    r.withParts (p :: parts) = (r.add p.source.name p.collected).withParts parts := by
  simp [withParts, add, Part.failures, List.append_assoc]

theorem withParts_append (r : TargetReport) (parts others : List Part) :
    r.withParts (parts ++ others) = (r.withParts parts).withParts others := by
  simp [withParts, List.append_assoc]

/-- The views that fail are the parts that fail, in their order. -/
theorem withParts_viewFailures (r : TargetReport) (parts : List Part) :
    (r.withParts parts).viewFailures.map (·.view) =
      r.viewFailures.map (·.view) ++ (parts.filter Part.fails).map (·.source.name) := by
  simp only [withParts, List.map_append, List.append_cancel_left_eq]
  induction parts with
  | nil => rfl
  | cons p parts ih =>
    rw [List.flatMap_cons, List.map_append, Part.failures_view, ih, List.filter_cons]
    cases p.fails <;> rfl

end TargetReport

section Reading

variable {m : Type → Type} [Monad m] (w : World m)

/-- Reads a source, whatever comes of it. -/
def Source.read (c : Connection) (s : Source) (r : TargetReport) : m TargetReport := do
  let found := s.collect (← w.query c.session s.sql)
  w.logAll found.log
  w.logAll (found.failure.map (s.failureLog c.target.fingerprint)).toList
  pure (r.add s.name found)

/-- Reads source after source. -/
def Source.readAll (c : Connection) : List Source → TargetReport → m TargetReport
  | [], r => pure r
  | s :: ss, r => do
    let r ← s.read w c r
    readAll c ss r

namespace Connection

/-- The source that an entry of the views stands for, unless its query is disabled. -/
def source? (c : Connection) (emitUntyped : Bool) (entry : String × ViewMap) : Option Source :=
  ((QueryChoice.of c.state.maps.queries entry.1).sql entry.1).map
    (Source.ofView ⟨entry.1, entry.2, c.labels, emitUntyped⟩)

/-- All that a connection is asked for after its version: its settings unless they are disabled, then its views. -/
def sources (c : Connection) (o : Options) : List Source :=
  (if o.disableSettingsMetrics then [] else [.settings c.labels]) ++
    c.state.maps.views.entries.filterMap (c.source? o.emitUntypedColumns)

/-- Views are read in ascending order of their names, and none twice. -/
theorem views_ascending (c : Connection) (emitUntyped : Bool) :
    ((c.state.maps.views.entries.filterMap (c.source? emitUntyped)).map (·.name)).Pairwise (· < ·) := by
  rw [List.pairwise_map, List.pairwise_filterMap]
  refine c.state.maps.views.sorted.imp ?_
  intro first second lt s atFirst s' atSecond
  obtain ⟨_, _, rfl⟩ := Option.map_eq_some_iff.1 atFirst
  obtain ⟨_, _, rfl⟩ := Option.map_eq_some_iff.1 atSecond
  exact lt

end Connection

theorem Exporter.scrapeSettings_eq_read (c : Connection) (r : TargetReport) :
    scrapeSettings w c r = (Source.settings c.labels).read w c r := rfl

theorem Exporter.scrapeViews_eq_readAll (c : Connection) (emitUntyped : Bool) (views : List (String × ViewMap))
    (r : TargetReport) :
    scrapeViews w c emitUntyped views r = Source.readAll w c (views.filterMap (c.source? emitUntyped)) r := by
  induction views generalizing r with
  | nil => rfl
  | cons entry views ih =>
    simp only [scrapeViews, List.filterMap_cons, Connection.source?]
    cases (QueryChoice.of c.state.maps.queries entry.1).sql entry.1 with
    | none => exact ih r
    | some sql =>
      simp only [Option.map_some, Source.readAll]
      exact congrArg _ (funext ih)

end Reading

section Runs

variable {address : Session → σ} {c : Connection} {t : List (Exchange σ)} {r r' : TargetReport}

theorem Source.runs_read {s : Source} : Runs (s.read (world address) c r) t r' ↔
    ∃ outcome, t = Part.exchanges address c ⟨s, outcome⟩ ∧ r' = r.withParts [⟨s, outcome⟩] := by
  simp only [TargetReport.withParts_cons, TargetReport.withParts_nil]
  constructor
  · intro run
    obtain ⟨_, outcome, _, asked, logging, rfl⟩ := runs_bind.1 run
    obtain ⟨_, _, _, logged, failing, rfl⟩ := runs_bind.1 logging
    obtain ⟨_, _, _, failed, ended, rfl⟩ := runs_bind.1 failing
    obtain ⟨rfl, rfl⟩ := runs_pure.1 ended
    refine ⟨outcome, ?_, rfl⟩
    rw [runs_request.1 asked, runs_logAll.1 logged, runs_logAll.1 failed, List.append_nil, ← List.map_append]
    rfl
  · rintro ⟨outcome, rfl, rfl⟩
    refine runs_bind.2 ⟨_, outcome, _, runs_request.2 rfl, ?_, rfl⟩
    refine runs_bind.2 ⟨_, (), _, runs_logAll.2 rfl, ?_, List.map_append⟩
    exact runs_bind.2 ⟨_, (), _, runs_logAll.2 rfl, .done, (List.append_nil _).symm⟩

/-- Each source is asked for once, in order, whatever the others replied. -/
theorem Source.runs_readAll {ss : List Source} : Runs (readAll (world address) c ss r) t r' ↔
    ∃ parts : List Part, parts.map (·.source) = ss ∧ t = parts.flatMap (·.exchanges address c) ∧
      r' = r.withParts parts := by
  induction ss generalizing r t with
  | nil =>
    simp only [readAll, runs_pure, List.map_eq_nil_iff]
    constructor
    · rintro ⟨rfl, rfl⟩
      exact ⟨[], rfl, rfl, (TargetReport.withParts_nil _).symm⟩
    · rintro ⟨_, rfl, rfl, rfl⟩
      exact ⟨rfl, TargetReport.withParts_nil _⟩
  | cons s ss ih =>
    simp only [readAll, runs_bind, runs_read, ih]
    constructor
    · rintro ⟨_, _, _, ⟨outcome, rfl, rfl⟩, ⟨parts, rfl, rfl, rfl⟩, rfl⟩
      exact ⟨⟨s, outcome⟩ :: parts, rfl, rfl, (TargetReport.withParts_append _ [_] _).symm⟩
    · rintro ⟨parts, sources, rfl, rfl⟩
      obtain ⟨⟨_, outcome⟩, others, rfl, rfl, rfl⟩ := List.map_eq_cons_iff.1 sources
      exact ⟨_, _, _, ⟨outcome, rfl, rfl⟩, ⟨others, rfl, rfl, TargetReport.withParts_append _ [_] _⟩, rfl⟩

end Runs

end PgMetrics
