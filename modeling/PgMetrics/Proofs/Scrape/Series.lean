import Mathlib.Control.Monad.Basic
import Mathlib.Data.List.TakeWhile
import PgMetrics.Proofs.Scrape.Readings

namespace PgMetrics

open Dialogue

variable {σ : Type}

/-- What gives samples of a target. -/
inductive Emitter where
  | version
  | setting (name : String)
  | column (view name : String)
  deriving DecidableEq, Repr

/-- Where a sample is from: the connection string of the target, its server, and what gave it there. -/
structure Origin where
  dsn : String
  server : String
  emitter : Emitter
  deriving DecidableEq, Repr

/-- Of one emitter, samples have different labels. -/
def Distinguished (found : List (Emitter × Sample)) : Prop :=
  found.Pairwise fun a b => a.1 = b.1 → a.2.labels ≠ b.2.labels

theorem distinguished_flatMap {α : Type} {as : List α} {f : α → List (Emitter × Sample)} :
    Distinguished (as.flatMap f) ↔ (∀ a ∈ as, Distinguished (f a)) ∧
      as.Pairwise fun a b => ∀ x ∈ f a, ∀ y ∈ f b, x.1 = y.1 → x.2.labels ≠ y.2.labels :=
  List.pairwise_flatMap

/-- The samples that a single thing gives with some labels: at most one. -/
def Single (labels : Labels) (samples : List Sample) : Prop :=
  samples = [] ∨ ∃ s, samples = [s] ∧ s.labels = labels

theorem Single.distinguished {labels : Labels} {samples : List Sample} (single : Single labels samples)
    (emitter : Emitter) : Distinguished (samples.map (emitter, ·)) := by
  obtain rfl | ⟨s, rfl, -⟩ := single
  · exact .nil
  · exact List.pairwise_singleton _ _

theorem Single.labels_eq {labels : Labels} {samples : List Sample} (single : Single labels samples) {s : Sample}
    (member : s ∈ samples) : s.labels = labels := by
  obtain rfl | ⟨s', rfl, same⟩ := single
  · cases member
  · rw [List.mem_singleton.1 member, same]

namespace Settings

/-- The samples in the outcome of the query for the settings, each with its setting. -/
def emitted (labels : Labels) : Except Failure Answer → List (Emitter × Sample)
  | .error _ => []
  | .ok a =>
    if a.rows.all fun row => (ofRow? row).isSome then
      (a.rows.filterMap ofRow?).flatMap fun s => (collectSetting labels s).samples.map (.setting s.name, ·)
    else []

/-- No two settings in an answer have the same name. -/
def NamesApart (a : Answer) : Prop :=
  (a.rows.filterMap ofRow?).Pairwise (·.name ≠ ·.name)

instance (a : Answer) : Decidable (NamesApart a) :=
  inferInstanceAs (Decidable (List.Pairwise _ _))

variable {labels : Labels} {outcome : Except Failure Answer}

theorem collectRows_samples (labels : Labels) (rows : List (List Cell)) :
    (collectRows labels rows).failure.isNone = (rows.all fun row => (ofRow? row).isSome) ∧
      (collectRows labels rows).samples =
        if rows.all fun row => (ofRow? row).isSome then
          (rows.filterMap ofRow?).flatMap fun s => (collectSetting labels s).samples
        else [] := by
  induction rows with
  | nil => exact ⟨rfl, rfl⟩
  | cons row rows ih =>
    obtain ⟨failure, samples⟩ := ih
    cases read : ofRow? row with
    | none =>
      simp only [collectRows, List.all_cons, read, Option.isSome_none, Bool.false_and]
      exact ⟨rfl, rfl⟩
    | some s =>
      simp only [collectRows, List.all_cons, List.filterMap_cons, read, Option.isSome_some, Bool.true_and,
        List.flatMap_cons]
      cases rest : (collectRows labels rows).failure with
      | some e =>
        rw [rest] at failure
        simp only [← failure]
        exact ⟨trivial, rfl⟩
      | none =>
        rw [rest] at failure
        rw [← failure] at samples ⊢
        refine ⟨?_, congrArg _ samples⟩
        rw [collectSetting_append_failure, rest]

theorem emitted_samples : (emitted labels outcome).map (·.2) = (collect labels outcome).samples := by
  cases outcome with
  | error e => rfl
  | ok a =>
    simp only [collect, emitted, (collectRows_samples labels a.rows).2]
    split
    · simp [List.map_flatMap, Function.comp_def]
    · rfl

theorem single_collectSetting (labels : Labels) (s : Setting) :
    Single labels (collectSetting labels s).samples := by
  have gauge (value : Float) (unit : Option String) : (s.gauge labels value unit).labels = labels := by
    cases unit <;> rfl
  unfold collectSetting
  cases sampled : s.sample labels with
  | error e => exact .inl rfl
  | ok sample =>
    refine .inr ⟨sample, rfl, ?_⟩
    unfold Setting.sample at sampled
    split at sampled
    · cases sampled
      exact gauge _ _
    · split at sampled
      · cases normal : s.normalize with
        | error e =>
          rw [normal] at sampled
          cases sampled
        | ok p =>
          rw [normal] at sampled
          cases sampled
          exact gauge _ _
      · cases sampled

theorem mem_emitted {p : Emitter × Sample} (member : p ∈ emitted labels outcome) :
    p.2.labels = labels ∧ ∃ name, p.1 = .setting name := by
  cases outcome with
  | error e => cases member
  | ok a =>
    simp only [emitted] at member
    split at member
    · obtain ⟨s, -, inSetting⟩ := List.mem_flatMap.1 member
      obtain ⟨sample, inSamples, rfl⟩ := List.mem_map.1 inSetting
      exact ⟨(single_collectSetting labels s).labels_eq inSamples, s.name, rfl⟩
    · cases member

theorem distinguished_emitted (apart : ∀ a, outcome = .ok a → NamesApart a) :
    Distinguished (emitted labels outcome) := by
  cases outcome with
  | error e => exact .nil
  | ok a =>
    simp only [emitted]
    split
    · refine distinguished_flatMap.2 ⟨fun s _ => (single_collectSetting labels s).distinguished _, ?_⟩
      refine (apart a rfl).imp ?_
      rintro s s' ne x memX y memY same
      obtain ⟨_, -, rfl⟩ := List.mem_map.1 memX
      obtain ⟨_, -, rfl⟩ := List.mem_map.1 memY
      exact absurd (Emitter.setting.inj same) ne
    · exact .nil

end Settings

namespace View

/-- The samples of a row, each with its column. -/
def emittedRow (v : View) (cells : List (String × Cell)) : List (Emitter × Sample) :=
  cells.flatMap fun cell =>
    (v.collectCell (v.rowLabels cells) cell.1 cell.2).samples.map (.column v.name cell.1, ·)

/-- The samples in the outcome of the query of a view, each with its column. -/
def emitted (v : View) : Except Failure Answer → List (Emitter × Sample)
  | .error _ => []
  | .ok a =>
    (a.rows.takeWhile (·.length == a.columns.length)).flatMap fun row => v.emittedRow (a.columns.zip row)

/-- The values of the label columns in a row. -/
def labelTexts (v : View) (cells : List (String × Cell)) : List String :=
  v.map.labels.map (labelText cells)

/-- No two columns of an answer have the same name, and no two rows the same values of the label columns. -/
structure RowsApart (v : View) (a : Answer) : Prop where
  columns : a.columns.Nodup
  rows : a.rows.Pairwise fun row row' => v.labelTexts (a.columns.zip row) ≠ v.labelTexts (a.columns.zip row')

variable {v : View} {outcome : Except Failure Answer}

theorem emitted_samples : (v.emitted outcome).map (·.2) = (v.collect outcome).samples := by
  cases outcome with
  | error e => rfl
  | ok a =>
    have ofCells (labels : Labels) (cells : List (String × Cell)) : (v.collectCells labels cells).samples =
        cells.flatMap fun cell => (v.collectCell labels cell.1 cell.2).samples := by
      induction cells with
      | nil => rfl
      | cons cell cells ih => exact congrArg _ ih
    simp only [emitted, collect]
    induction a.rows with
    | nil => rfl
    | cons row rows ih =>
      simp only [collectRows, List.takeWhile_cons, beq_iff_eq]
      split
      · change _ = (v.collectCells _ _).samples ++ (v.collectRows a.columns rows).samples
        rw [← ih, List.flatMap_cons, List.map_append, ofCells]
        simp [emittedRow, List.map_flatMap, Function.comp_def]
      · rfl

theorem single_collectCell (v : View) (labels : Labels) (column : String) (cell : Cell) :
    Single labels (v.collectCell labels column cell).samples := by
  unfold collectCell
  split
  · unfold declaredCell
    split
    · exact .inl rfl
    · dsimp only
      split
      · exact .inr ⟨_, rfl, rfl⟩
      · exact .inl rfl
      · exact .inl rfl
  · unfold undeclaredCell
    split
    · split
      · exact .inr ⟨_, rfl, rfl⟩
      · exact .inl rfl
    · exact .inl rfl

theorem mem_emittedRow {cells : List (String × Cell)} {p : Emitter × Sample} (member : p ∈ v.emittedRow cells) :
    p.2.labels = v.rowLabels cells ∧ ∃ column, p.1 = .column v.name column := by
  obtain ⟨cell, -, inCell⟩ := List.mem_flatMap.1 member
  obtain ⟨sample, inSamples, rfl⟩ := List.mem_map.1 inCell
  exact ⟨(single_collectCell ..).labels_eq inSamples, cell.1, rfl⟩

theorem mem_emitted {p : Emitter × Sample} (member : p ∈ v.emitted outcome) :
    (∃ rest, p.2.labels = v.labels ++ rest) ∧ ∃ column, p.1 = .column v.name column := by
  cases outcome with
  | error e => cases member
  | ok a =>
    obtain ⟨row, -, inRow⟩ := List.mem_flatMap.1 member
    obtain ⟨labels, column⟩ := mem_emittedRow inRow
    exact ⟨⟨_, labels⟩, column⟩

theorem distinguished_emitted (apart : ∀ a, outcome = .ok a → v.RowsApart a) : Distinguished (v.emitted outcome) := by
  cases outcome with
  | error e => exact .nil
  | ok a =>
    obtain ⟨columns, rows⟩ := apart a rfl
    refine distinguished_flatMap.2 ⟨?_, ?_⟩
    · intro row member
      have width : row.length = a.columns.length := by simpa using List.mem_takeWhile_imp member
      refine distinguished_flatMap.2 ⟨fun cell _ => (single_collectCell ..).distinguished _, ?_⟩
      have names : ((a.columns.zip row).map (·.1)).Nodup := by
        rw [List.map_fst_zip (by omega)]
        exact columns
      refine (List.pairwise_map.1 names).imp ?_
      rintro cell cell' ne x memX y memY same
      obtain ⟨_, -, rfl⟩ := List.mem_map.1 memX
      obtain ⟨_, -, rfl⟩ := List.mem_map.1 memY
      exact absurd (Emitter.column.inj same).2 ne
    · refine (rows.sublist (List.takeWhile_sublist _)).imp ?_
      rintro row row' ne x memX y memY - same
      rw [(mem_emittedRow memX).1, (mem_emittedRow memY).1, rowLabels, rowLabels, List.append_cancel_left_eq] at same
      refine ne ?_
      have texts := congrArg (List.map (·.2)) same
      simpa [labelTexts, Function.comp_def] using texts

end View

namespace Reading

/-- The samples of a target, each with what gave it. -/
def emittedBy (c : Connection) (version : Except Failure (Option Sample)) (settings : Option (Except Failure Answer))
    (views : List ((View × String) × Except Failure Answer)) : List (Emitter × Sample) :=
  version.toOption.join.toList.map (.version, ·) ++ (settings.toList.flatMap (Settings.emitted c.labels) ++
    views.flatMap fun q => q.1.1.emitted q.2)

/-- The samples of a target, each with its origin. -/
def emitted : Reading → List (Origin × Sample)
  | unconnected .. => []
  | connected x c version settings views =>
    (emittedBy c version settings views).map fun p => (⟨x, c.target.fingerprint, p.1⟩, p.2)

/-- In no answer two settings have the same name, or two columns, or two rows the same values of the labels. -/
def AnswersApart : Reading → Prop
  | unconnected .. => True
  | connected _ _ _ settings views =>
    (∀ a, settings = some (.ok a) → Settings.NamesApart a) ∧ ∀ q ∈ views, ∀ a, q.2 = .ok a → q.1.1.RowsApart a

/-- All labels begin with those of the target, and no two views have the same name. -/
def WellLabelled (constants : Table String) : Reading → Prop
  | unconnected .. => True
  | connected _ c version _ views =>
    c.labels = c.target.labels constants ∧
      (∀ s, version = .ok (some s) → ∃ rest, s.labels = c.labels ++ rest) ∧
      (∀ q ∈ views, q.1.1.labels = c.labels) ∧ views.Pairwise (·.1.1.name ≠ ·.1.1.name)

variable {constants : Table String} {reading : Reading}

theorem emitted_samples (reading : Reading) : reading.emitted.map (·.2) = reading.report.samples := by
  cases reading with
  | unconnected => rfl
  | connected x c version settings views =>
    have ofVersion : (Exporter.addVersion { target := Dsn.redact x } version).samples =
        version.toOption.join.toList := by
      rcases version with _ | _ | _ <;> rfl
    simp only [emitted, emittedBy, report, TargetReport.withParts, ofVersion, parts, List.map_map, List.map_append,
      List.flatMap_append, List.map_flatMap, List.flatMap_map, Function.comp_def, List.map_id']
    congr 1
    congr 1
    · cases settings with
      | none => rfl
      | some outcome =>
        simp only [Option.toList_some, List.flatMap_cons, List.flatMap_nil, List.append_nil]
        exact Settings.emitted_samples
    · congr 1
      funext q
      exact View.emitted_samples

theorem distinguished_emittedBy {x : String} {c : Connection} {version : Except Failure (Option Sample)}
    {settings : Option (Except Failure Answer)} {views : List ((View × String) × Except Failure Answer)}
    (labelled : (connected x c version settings views).WellLabelled constants)
    (apart : (connected x c version settings views).AnswersApart) :
    Distinguished (emittedBy c version settings views) := by
  obtain ⟨-, -, -, names⟩ := labelled
  obtain ⟨inSettings, inViews⟩ := apart
  refine List.pairwise_append.2 ⟨?_, List.pairwise_append.2 ⟨?_, ?_, ?_⟩, ?_⟩
  · rcases version with _ | _ | s
    · exact .nil
    · exact .nil
    · exact List.pairwise_singleton _ _
  · cases settings with
    | none => exact .nil
    | some outcome =>
      rw [Option.toList_some, List.flatMap_singleton]
      exact Settings.distinguished_emitted fun a ok => inSettings a (congrArg some ok)
  · refine distinguished_flatMap.2 ⟨fun q member => View.distinguished_emitted (inViews q member), ?_⟩
    refine names.imp ?_
    intro q q' ne a memA b memB same
    obtain ⟨-, column, rfl₁⟩ := View.mem_emitted memA
    obtain ⟨-, column', rfl₂⟩ := View.mem_emitted memB
    rw [rfl₁, rfl₂] at same
    exact absurd (Emitter.column.inj same).1 ne
  · intro a memA b memB same
    obtain ⟨outcome, -, inOutcome⟩ := List.mem_flatMap.1 memA
    obtain ⟨q, -, inView⟩ := List.mem_flatMap.1 memB
    obtain ⟨-, name, setting⟩ := Settings.mem_emitted inOutcome
    obtain ⟨-, column, ofView⟩ := View.mem_emitted inView
    rw [setting, ofView] at same
    cases same
  · intro a memA b memB same
    obtain ⟨s, -, rfl⟩ := List.mem_map.1 memA
    obtain inSettings | inViews := List.mem_append.1 memB
    · obtain ⟨outcome, -, inOutcome⟩ := List.mem_flatMap.1 inSettings
      obtain ⟨-, name, setting⟩ := Settings.mem_emitted inOutcome
      rw [setting] at same
      cases same
    · obtain ⟨q, -, inView⟩ := List.mem_flatMap.1 inViews
      obtain ⟨-, column, ofView⟩ := View.mem_emitted inView
      rw [ofView] at same
      cases same

/-- The labels of a sample of a target say first which server it is on. -/
theorem mem_emitted (labelled : reading.WellLabelled constants) {p : Origin × Sample} (member : p ∈ reading.emitted) :
    p.1.dsn = reading.dsn ∧ ∃ rest, p.2.labels = (serverLabel, p.1.server) :: (constants.entries ++ rest) := by
  cases reading with
  | unconnected => cases member
  | connected x c version settings views =>
    obtain ⟨p, inTarget, rfl⟩ := List.mem_map.1 member
    obtain ⟨labels, ofVersion, ofViews, -⟩ := labelled
    refine ⟨rfl, ?_⟩
    have begins : ∃ rest, p.2.labels = c.labels ++ rest := by
      obtain inVersion | others := List.mem_append.1 inTarget
      · obtain ⟨s, atVersion, rfl⟩ := List.mem_map.1 inVersion
        refine ofVersion s ?_
        rcases version with _ | _ | s' <;> simp_all [Except.toOption]
      · obtain inSettings | inViews := List.mem_append.1 others
        · obtain ⟨outcome, -, inOutcome⟩ := List.mem_flatMap.1 inSettings
          exact ⟨[], by rw [(Settings.mem_emitted inOutcome).1, List.append_nil]⟩
        · obtain ⟨q, atView, inView⟩ := List.mem_flatMap.1 inViews
          rw [← ofViews q atView]
          exact (View.mem_emitted inView).1
    obtain ⟨rest, same⟩ := begins
    exact ⟨rest, by rw [same, labels]; rfl⟩

/-- Two samples of a target that have the same labels are from different emitters. -/
theorem pairwise_emitted (labelled : reading.WellLabelled constants) (apart : reading.AnswersApart) :
    reading.emitted.Pairwise fun a b => a.1 = b.1 → a.2.labels ≠ b.2.labels := by
  cases reading with
  | unconnected => exact .nil
  | connected x c version settings views =>
    refine List.pairwise_map.2 ((distinguished_emittedBy labelled apart).imp ?_)
    intro a b differ same
    exact differ (Origin.mk.inj same).2.2

end Reading

namespace Exporter

variable {address : Session → σ} {e e' : Exporter} {t : List (Exchange σ)} {reading : Reading}
  {readings : List Reading} {cycles : List (Cycle σ)} {cycle : Cycle σ}

theorem Reads.wellLabelled (labelled : e.registry.Labelled) (reads : Reads address e t reading e') :
    reading.WellLabelled e.registry.constants ∧ e'.registry.Labelled ∧
      e'.registry.constants = e.registry.constants ∧ e'.plan = e.plan ∧ e'.dsns = e.dsns := by
  cases reads with
  | unconnected acquires =>
    exact ⟨trivial, labelled.of_renews acquires.renews, acquires.renews.constants, rfl, rfl⟩
  | @connected t₁ t₂ x c registry outcome state loader settings views acquires refreshes some_ atViews =>
    have renews := acquires.renews
    have labelled₁ := labelled.of_renews renews
    obtain ⟨atX, _⟩ := acquires.get?_of_ok
    obtain ⟨read, labels⟩ := labelled₁ x c atX
    have own : c.target.dsn = x := Target.dsn_of_read read
    rw [renews.constants] at labels
    refine ⟨⟨labels, ?_, ?_, ?_⟩, ?_, renews.constants, rfl, rfl⟩
    · intro s sampled
      cases refreshes with
      | failed => cases sampled
      | @done _ banner =>
        have version := Except.ok.inj sampled
        unfold Plan.versionSample at version
        split at version
        · cases version
        · cases version
          exact ⟨_, rfl⟩
    · intro q member
      exact Connection.views_labels (atViews ▸ List.mem_map_of_mem member)
    · have names := Connection.views_nodup { c with state } e.options.emitUntypedColumns
      rw [← atViews] at names
      have apart := List.pairwise_map.1 names
      exact apart
    · exact own.symm ▸ labelled₁.add atX state

theorem Sweeps.wellLabelled (labelled : e.registry.Labelled) (sweeps : Sweeps address e t readings e') :
    (∀ reading ∈ readings, reading.WellLabelled e.registry.constants) ∧ e'.registry.Labelled ∧
      e'.registry.constants = e.registry.constants ∧ e'.plan = e.plan ∧ e'.dsns = e.dsns := by
  induction sweeps with
  | nil => exact ⟨fun _ member => (by cases member), labelled, rfl, rfl, rfl⟩
  | cons reads _ ih =>
    obtain ⟨first, labelled₁, constants, plan, dsns⟩ := reads.wellLabelled labelled
    obtain ⟨rest, labelled', constants', plan', dsns'⟩ := ih labelled₁
    rw [constants] at rest constants'
    exact ⟨List.forall_mem_cons.2 ⟨first, rest⟩, labelled', constants', plan'.trans plan, dsns'.trans dsns⟩

/-- What does not change from cycle to cycle. -/
structure Constant (catalog : Catalog) (o : Options) (dsns : List String) (e : Exporter) : Prop where
  plan : e.plan = ⟨catalog, o⟩
  dsns : e.dsns = dsns
  labelled : e.registry.Labelled
  constants : e.registry.constants = o.constantLabels

variable {catalog : Catalog} {o : Options} {dsns : List String}

theorem Constant.gathers (constant : Constant catalog o dsns e) (gathers : Gathers address e cycle readings e') :
    Constant catalog o dsns e' ∧ (∀ reading ∈ readings, reading.WellLabelled o.constantLabels) := by
  cases gathers with
  | @mk _ _ _ _ _ e₁ e₂ chosen sweeps =>
    obtain ⟨renews, plan, -, dsns₁⟩ := renews_of_targets chosen
    obtain ⟨all, labelled, constants, plan', dsns'⟩ :=
      sweeps.wellLabelled (constant.labelled.of_renews renews)
    rw [renews.constants, constant.constants] at all constants
    exact ⟨⟨(plan'.trans plan).trans constant.plan, (dsns'.trans dsns₁).trans constant.dsns, labelled, constants⟩,
      all⟩

theorem Rounds.constant (run : Rounds address (Exporter.of catalog o dsns) cycles e) :
    Constant catalog o dsns e := by
  induction run with
  | start => exact ⟨rfl, rfl, Registry.labelled_new _, rfl⟩
  | next _ last ih =>
    obtain ⟨readings, gathers⟩ := scrapes_iff_gathers.1 last
    exact (ih.gathers gathers).1

/-- The samples of a snapshot, those of targets with their origins. -/
def tagged (readings : List Reading) (s : Snapshot) : List (Option Origin × Sample) :=
  (readings.flatMap (·.emitted)).map (fun p => (some p.1, p.2)) ++ s.operational.map (none, ·)

theorem operational_labels (e : Exporter) (rs : List TargetReport) (seconds : Float) :
    (e.operational rs seconds).Pairwise (·.name ≠ ·.name) ∧ ∀ s ∈ e.operational rs seconds, ∃ rest,
      s.labels = e.options.constantLabels.entries ++ rest ∧ ∀ l, rest.head? = some l → l.1 = "filename" := by
  unfold operational
  constructor
  · cases e.documentStatus <;>
      simp [ownSample, documentSample, Sample.of, Sample.withLabel]
  · intro s member
    cases status : e.documentStatus with
    | none =>
      rw [status] at member
      refine ⟨[], ?_, fun _ none => (by cases none)⟩
      simp only [Option.map_none, Option.toList_none, List.append_nil, List.mem_cons, List.not_mem_nil, or_false]
        at member
      rcases member with rfl | rfl | rfl | rfl | rfl <;> exact (List.append_nil _).symm
    | some status' =>
      rw [status] at member
      simp only [Option.map_some, Option.toList_some, List.cons_append, List.nil_append, List.mem_cons,
        List.not_mem_nil, or_false] at member
      rcases member with rfl | rfl | rfl | rfl | rfl | rfl
      case inr.inr.inr.inr.inr =>
        refine ⟨[("filename", status'.path), ("hashsum", status'.hashsum)], ?_, fun l first => ?_⟩
        · exact List.append_assoc ..
        · cases first
          rfl
      all_goals exact ⟨[], (List.append_nil _).symm, fun _ none => (by cases none)⟩

/-- Constant labels have different names, so that they are not the server's label and themselves once more. -/
theorem server_labels_ne {constants : Table String} {server : String} {rest rest' : Labels}
    (first : ∀ l, rest'.head? = some l → l.1 = "filename") :
    (serverLabel, server) :: (constants.entries ++ rest) ≠ constants.entries ++ rest' := by
  have other : serverLabel ≠ "filename" := by decide
  intro same
  obtain ⟨entries, sorted⟩ := constants
  cases entries with
  | nil =>
    have whole : rest' = (serverLabel, server) :: rest := same.symm
    exact other (first (serverLabel, server) (by rw [whole]; rfl))
  | cons c entries =>
    obtain ⟨rfl, later⟩ := List.cons.inj same
    cases entries with
    | nil =>
      have whole : rest' = (serverLabel, server) :: rest := later.symm
      exact other (first (serverLabel, server) (by rw [whole]; rfl))
    | cons c' entries =>
      obtain ⟨rfl, -⟩ := List.cons.inj later
      exact absurd ((List.pairwise_cons.1 sorted).1 _ (List.mem_cons_self ..)) (String.lt_irrefl _)

/-- In a snapshot over different connection strings, in which no answer repeats itself, two samples with the same name
and the same labels are of targets on one server, and of different origins: of two targets, or of one target and from
its version, a setting or a column that give metrics of one name. -/
theorem same_series_of_one_server (distinct : dsns.Nodup)
    (run : Rounds address (Exporter.of catalog o dsns) cycles e) (last : Gathers address e cycle readings e')
    (apart : ∀ reading ∈ readings, reading.AnswersApart) :
    (tagged readings cycle.snapshot).map (·.2) = cycle.snapshot.samples ∧
      (tagged readings cycle.snapshot).Pairwise fun a b => a.2.name = b.2.name → a.2.labels = b.2.labels →
        ∃ p q, a.1 = some p ∧ b.1 = some q ∧ p.server = q.server ∧ p ≠ q := by
  have constant := run.constant
  obtain ⟨constant', labelled⟩ := constant.gathers last
  cases last with
  | @mk start finish _ _ _ e₁ e₂ chosen sweeps =>
    have targets := nodup_of_targets chosen (constant.dsns ▸ distinct)
    obtain ⟨names, ownLabels⟩ := operational_labels (e₂.count (readings.map Reading.report))
      (readings.map Reading.report) (finish - start)
    have options : (e₂.count (readings.map Reading.report)).options = o := by
      rw [Exporter.options, constant'.plan]
    rw [options] at ownLabels
    have ofTarget {p : Origin × Sample} (member : p ∈ readings.flatMap (·.emitted)) :
        ∃ rest, p.2.labels = (serverLabel, p.1.server) :: (o.constantLabels.entries ++ rest) := by
      obtain ⟨reading, inReadings, inReading⟩ := List.mem_flatMap.1 member
      exact (Reading.mem_emitted (labelled reading inReadings) inReading).2
    constructor
    · simp [tagged, Snapshot.samples, List.map_flatMap, List.flatMap_map, Reading.emitted_samples,
        Function.comp_def]
    · refine List.pairwise_append.2 ⟨List.pairwise_map.2 ?_, List.pairwise_map.2 (names.imp ?_), ?_⟩
      · have origins : (readings.flatMap (·.emitted)).Pairwise fun a b => a.1 = b.1 → a.2.labels ≠ b.2.labels := by
          refine List.pairwise_flatMap.2 ⟨fun reading member =>
            Reading.pairwise_emitted (labelled reading member) (apart reading member), ?_⟩
          refine (List.pairwise_map.1 targets).imp_of_mem ?_
          intro reading reading' member member' ne a memA b memB same
          have own := (Reading.mem_emitted (labelled _ member) memA).1
          have own' := (Reading.mem_emitted (labelled _ member') memB).1
          exact absurd (own.symm.trans ((congrArg Origin.dsn same).trans own')) ne
        refine origins.imp_of_mem ?_
        intro a b memA memB differ _ sameLabels
        obtain ⟨_, labelsA⟩ := ofTarget memA
        obtain ⟨_, labelsB⟩ := ofTarget memB
        refine ⟨a.1, b.1, rfl, rfl, ?_, fun same => differ same sameLabels⟩
        rw [labelsA, labelsB] at sameLabels
        exact (Prod.mk.inj (List.cons.inj sameLabels).1).2
      · intro a b ne same
        exact absurd same ne
      · intro a memA b memB _ same
        obtain ⟨p, inTargets, rfl⟩ := List.mem_map.1 memA
        obtain ⟨s, inOwn, rfl⟩ := List.mem_map.1 memB
        obtain ⟨_, labels⟩ := ofTarget inTargets
        obtain ⟨_, labels', first⟩ := ownLabels s inOwn
        exact absurd (labels.symm.trans (same.trans labels')) (server_labels_ne first)

/-- Two settings whose names differ in a full stop: their origins differ in the setting alone. -/
theorem same_series_of_two_settings :
    ∃ cycle readings e', Gathers Session.dsn (Exporter.of {} {} ["host=db"]) cycle readings e' ∧
      (readings.flatMap (·.emitted)).map (·.1) = [.version, .setting "a.b", .setting "a_b"].map
        (Origin.mk "host=db" "db:5432") ∧ (tagged readings cycle.snapshot).map (·.2) = cycle.snapshot.samples ∧
      (tagged readings cycle.snapshot).Pairwise fun a b => a.2.name = b.2.name → a.2.labels = b.2.labels →
        ∃ p q, a.1 = some p ∧ b.1 = some q ∧ p.server = q.server ∧ p ≠ q := by
  let row (name : String) : List Cell := [.text name, .text "on", .text "", .text "", .text "bool"]
  let a : Answer := ⟨["name", "setting", "unit", "short_desc", "vartype"], [row "a.b", row "a_b"]⟩
  let e := Exporter.of {} {} ["host=db"]
  let target : Target := ⟨"host=db", "db:5432"⟩
  let c := e.registry.fresh target
  let banner : Banner := ⟨"PostgreSQL 11.2", .release 11 2 0⟩
  let said : Except Failure Answer := .ok ⟨["version"], [[.text banner.text]]⟩
  let advanced := e.plan.advance c.state e.loader banner.version none
  have read : Target.read "host=db" = .ok target := by decide +kernel
  have told : Banner.ofReply said = .ok banner := by decide +kernel
  have acquires : e.registry.Acquires Session.dsn "host=db" _ (.ok c) _ := .opened rfl read .alive
  have refreshes : e.plan.Refreshes Session.dsn c e.loader _ _ advanced.1 advanced.2 := .done told .none rfl
  have reads := Reads.connected acquires refreshes (rfl : (some (.ok a)).isSome = _) (rfl : [].map _ = _)
  have chosen : Runs (e.targets (world Session.dsn)) [] (["host=db"], e) := .done
  have gathers := @Gathers.mk _ Session.dsn e 0.0 1.0 _ _ [_] _ _ chosen (.cons reads .nil)
  have apart : Settings.NamesApart a := by decide
  refine ⟨_, _, _, gathers, rfl, same_series_of_one_server (by decide) .start gathers ?_⟩
  intro reading member
  obtain rfl := List.mem_singleton.1 member
  refine ⟨?_, fun q none => (by cases none)⟩
  rintro _ ⟨⟩
  exact apart

/-- Two databases on one server tell its version twice, and one database tells settings twice whose names differ in a
full stop. -/
theorem one_series_of_two_origins :
    let row (name : String) : List Cell := [.text name, .text "on", .text "", .text "", .text "bool"]
    let settings : Answer := ⟨["name", "setting", "unit", "short_desc", "vartype"], [row "a.b", row "a_b"]⟩
    let replies := Request.replyOf (fun _ => .ok ())
      (fun _ sql => .ok (if sql = Banner.query then ⟨["version"], [[.text "PostgreSQL 10.1"]]⟩ else settings))
      (.error .notFound)
    let run (o : Options) (dsns : List String) :=
      play (fun _ => replies) [] ((Exporter.of {} o dsns).scrape (world Session.dsn))
    let databases := run { disableSettingsMetrics := true } ["host=db dbname=a", "host=db dbname=b"]
    let alone := run {} ["host=db"]
    let Unique (s : Snapshot) := s.samples.Pairwise fun a b => ¬(a.name = b.name ∧ a.labels = b.labels)
    ((∀ q ∈ queries databases.1, q.2.1 = Banner.query) ∧ ¬Unique databases.2.1) ∧
      ((∀ q ∈ queries alone.1, q.2.1 = Banner.query ∨ q.2.1 = Settings.query) ∧ Settings.NamesApart settings ∧
        ¬Unique alone.2.1) := by
  intro row settings replies run databases alone Unique
  have repeated {s : Snapshot} (twice : ¬(s.samples.map fun x => (x.name, x.labels)).Nodup) : ¬Unique s := by
    intro unique
    refine twice (List.pairwise_map.2 (unique.imp ?_))
    intro a b differ same
    exact differ (Prod.mk.inj same)
  exact ⟨⟨by decide +kernel, repeated (by decide +kernel)⟩, by decide +kernel, by decide,
    repeated (by decide +kernel)⟩

end Exporter

end PgMetrics
