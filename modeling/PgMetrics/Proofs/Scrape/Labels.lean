import PgMetrics.Proofs.Scrape.Invariants
import PgMetrics.Proofs.Scrape.Series
import PgMetrics.Proofs.Session.Accounts

namespace PgMetrics

open Dialogue

variable {σ : Type}

/-- The labels that a sample of a target has besides those that all samples of the target have. -/
def Reading.ownLabels : Reading → Emitter → List String
  | _, .version => ["short_version", "version"]
  | connected _ _ _ _ views, .column view _ =>
    ((views.find? (·.1.1.name == view)).map (·.1.1.map.labels)).getD []
  | _, _ => []

/-- The labels that a sample of the exporter has besides the constants. -/
def Sample.ownLabels (s : Sample) : List String :=
  if s.name = "pg_exporter_user_queries_load_error" then ["filename", "hashsum"] else []

/-- The samples of the exporter have the constant labels, and only the one about the document has others. -/
theorem Exporter.labels_operational {e : Exporter} {rs : List TargetReport} {seconds : Float} {s : Sample}
    (member : s ∈ e.operational rs seconds) :
    ∃ rest, s.labels = e.options.constantLabels.entries ++ rest ∧ rest.map (·.1) = s.ownLabels := by
  unfold operational at member
  obtain own | document := List.mem_append.1 member
  · refine ⟨[], ?_⟩
    simp only [List.mem_cons, List.not_mem_nil, or_false] at own
    rcases own with rfl | rfl | rfl | rfl | rfl <;> exact ⟨(List.append_nil _).symm, rfl⟩
  · obtain ⟨status, -, rfl⟩ := Option.map_eq_some_iff.1 (Option.mem_toList.1 document)
    exact ⟨[("filename", status.path), ("hashsum", status.hashsum)], List.append_assoc .., rfl⟩

theorem find?_view {views : List ((View × String) × Except Failure Answer)} {q : (View × String) × Except Failure Answer}
    (apart : views.Pairwise (·.1.1.name ≠ ·.1.1.name)) (member : q ∈ views) :
    views.find? (·.1.1.name == q.1.1.name) = some q := by
  induction views with
  | nil => cases member
  | cons q' views ih =>
    obtain ⟨first, apart⟩ := List.pairwise_cons.1 apart
    obtain rfl | later := List.mem_cons.1 member
    · simp
    · have other : (q'.1.1.name == q.1.1.name) = false := by simpa using first q later
      rw [List.find?_cons, other]
      exact ih apart later

theorem View.labels_emitted {v : View} {outcome : Except Failure Answer} {p : Emitter × Sample}
    (member : p ∈ v.emitted outcome) :
    ∃ rest, p.2.labels = v.labels ++ rest ∧ rest.map (·.1) = v.map.labels := by
  cases outcome with
  | error e => cases member
  | ok a =>
    obtain ⟨row, -, inRow⟩ := List.mem_flatMap.1 member
    obtain ⟨labels, -⟩ := mem_emittedRow inRow
    refine ⟨_, labels, ?_⟩
    rw [List.map_map]
    exact List.map_id _

namespace Exporter

variable {address : Session → σ} {e e' : Exporter} {t : List (Exchange σ)} {reading : Reading}
  {readings : List Reading} {cycles : List (Cycle σ)} {cycle : Cycle σ} {o : Options} {catalog : Catalog}
  {dsns : List String}

/-- A sample of a target has the labels of the target that its connection string names, and then those of its own. -/
theorem Reads.labels (labelled : e.registry.Labelled) (reads : Reads address e t reading e') {p : Origin × Sample}
    (member : p ∈ reading.emitted) : ∃ target rest, Target.read reading.dsn = .ok target ∧
      p.2.labels = target.labels e.registry.constants ++ rest ∧ rest.map (·.1) = reading.ownLabels p.1.emitter := by
  obtain ⟨wellLabelled, -⟩ := reads.wellLabelled labelled
  cases reads with
  | unconnected => cases member
  | @connected t₁ t₂ x c registry outcome state loader settings views acquires refreshes some_ atViews =>
    obtain ⟨labels, -, ofViews, apart⟩ := wellLabelled
    obtain ⟨atX, _⟩ := acquires.get?_of_ok
    obtain ⟨read, -⟩ := labelled.of_renews acquires.renews x c atX
    obtain ⟨p, inTarget, rfl⟩ := List.mem_map.1 member
    refine ⟨c.target, ?_⟩
    have own : c.labels = c.target.labels e.registry.constants := labels
    rw [← own]
    obtain inVersion | others := List.mem_append.1 inTarget
    · obtain ⟨s, atVersion, rfl⟩ := List.mem_map.1 inVersion
      cases refreshes with
      | failed => cases atVersion
      | @done _ banner =>
        unfold Plan.versionSample at atVersion
        split at atVersion
        · cases atVersion
        · obtain rfl := List.mem_singleton.1 atVersion
          exact ⟨_, read, rfl, rfl⟩
    · obtain inSettings | inViews := List.mem_append.1 others
      · obtain ⟨outcome, -, inOutcome⟩ := List.mem_flatMap.1 inSettings
        obtain ⟨ofSetting, name, setting⟩ := Settings.mem_emitted inOutcome
        refine ⟨[], read, ?_, ?_⟩
        · rw [ofSetting, List.append_nil]
        · rw [setting]
          rfl
      · obtain ⟨q, atView, inView⟩ := List.mem_flatMap.1 inViews
        obtain ⟨rest, ofView, names⟩ := View.labels_emitted inView
        obtain ⟨-, column, emitter⟩ := View.mem_emitted inView
        refine ⟨rest, read, ?_, ?_⟩
        · rw [ofView, ofViews q atView]
        · rw [names, emitter, Reading.ownLabels, find?_view apart atView]
          rfl

theorem labelled_kept (constants : Table String) :
    Kept address fun _ _ e => e.registry.Labelled ∧ e.registry.constants = constants where
  renews holds renews _ _ := ⟨holds.1.of_renews renews, renews.constants.trans holds.2⟩
  pass holds passes := by
    obtain ⟨reading, rfl, rfl, reads⟩ := passes_iff_reads.1 passes
    obtain ⟨-, labelled, constants, -⟩ := reads.wellLabelled holds.1
    exact ⟨labelled, constants.trans holds.2⟩

/-- Whatever gives the samples in a cycle after others, each has the labels of where it is from and its own. -/
theorem Rounds.labels (run : Rounds address (Exporter.of catalog o dsns) cycles e)
    (last : Gathers address e cycle readings e') :
    (∀ reading ∈ readings, ∀ p ∈ reading.emitted, ∃ target rest, Target.read reading.dsn = .ok target ∧
        p.2.labels = target.labels o.constantLabels ++ rest ∧ rest.map (·.1) = reading.ownLabels p.1.emitter) ∧
      ∀ s ∈ cycle.snapshot.operational, ∃ rest, s.labels = o.constantLabels.entries ++ rest ∧
        rest.map (·.1) = s.ownLabels := by
  have constant := run.constant
  constructor
  · intro reading member p emitted
    have start := Registry.labelled_new o.constantLabels
    obtain ⟨_, _, _, _, _, _, _, ⟨labelled, constants⟩, reads, -⟩ :=
      (labelled_kept o.constantLabels).amid ⟨start, rfl⟩ run last reading member
    rw [← constants]
    exact reads.labels labelled emitted
  · intro s member
    obtain ⟨-, -, seconds, operational⟩ := last.eq
    rw [operational] at member
    have own := labels_operational member
    rwa [Exporter.options, (constant.gathers last).1.plan] at own

/-- In every cycle, the labels of a sample of a target are first the server that the connection string of the target
names and then the constants in the order of their names, and those of the exporter's own samples are the constants,
with the file and its hash sum behind them on the sample about the document. -/
theorem labels_name_source (run : Rounds address (Exporter.of catalog o dsns) cycles e) :
    (o.constantLabels.entries.map (·.1)).Pairwise (· < ·) ∧ ∀ d ∈ cycles,
      List.Forall₂ (fun x r => r.target = Dsn.redact x ∧ ∀ s ∈ r.samples, ∃ target rest,
        Target.read x = .ok target ∧
          s.labels = (serverLabel, target.fingerprint) :: (o.constantLabels.entries ++ rest))
        d.targets d.snapshot.reports ∧
      ∀ s ∈ d.snapshot.operational, ∃ rest, s.labels = o.constantLabels.entries ++ rest ∧
        rest.map (·.1) = if s.name = "pg_exporter_user_queries_load_error" then ["filename", "hashsum"] else [] := by
  refine ⟨List.pairwise_map.2 o.constantLabels.sorted, fun d member => ?_⟩
  obtain ⟨before, after, e₁, e₂, rfl, run₁, scrapes⟩ := run.exists_of_mem member
  obtain ⟨readings, gathers⟩ := scrapes_iff_gathers.1 scrapes
  obtain ⟨ofTargets, own⟩ := run₁.labels gathers
  obtain ⟨targets, reports, -⟩ := gathers.eq
  refine ⟨?_, own⟩
  rw [targets, reports, List.forall₂_map_left_iff, List.forall₂_map_right_iff, List.forall₂_same]
  intro reading inReadings
  refine ⟨?_, fun s inReport => ?_⟩
  · cases reading with
    | unconnected => rfl
    | connected x c version => cases version <;> rfl
  · rw [← Reading.emitted_samples] at inReport
    obtain ⟨p, emitted, rfl⟩ := List.mem_map.1 inReport
    obtain ⟨target, rest, read, labels, -⟩ := ofTargets reading inReadings p emitted
    exact ⟨target, rest, read, labels⟩

/-- The second of three cycles loses the session to a target, and the third opens another one. -/
theorem labels_after_reopening :
    let o : Options :=
      { disableSettingsMetrics := true, constantLabels := .ofList [("env", "prod")], extensionPath := some "q.yaml" }
    let replies (n : Nat) : (r : Request Session) → r.Reply
      | .ping _ => if n = 1 then .error (.of (.database .unreachable)) else .ok ()
      | r => Request.replyOf (fun _ => .ok ()) (fun _ _ => .ok ⟨["version"], [[.text "PostgreSQL 11.2"]]⟩)
        (.error .notFound) r
    let run (n : Nat) (e : Exporter) := play (fun _ => replies n) [] (e.scrape (world id))
    let first := run 0 (Exporter.of {} o ["host=db"])
    let second := run 1 first.2.2
    let third := run 2 second.2.2
    let s := third.2.1
    openings ⟨1, ⟨"host=db", "db:5432"⟩⟩ third.1 = 1 ∧ s.samples ≠ [] ∧
      (∀ r ∈ s.reports, ∀ x ∈ r.samples, ∃ rest, x.labels = ("server", "db:5432") :: ("env", "prod") :: rest) ∧
      ∀ x ∈ s.operational, ∃ rest, x.labels = ("env", "prod") :: rest ∧ rest.map (·.1) = x.ownLabels := by
  intro o replies run first second third s
  have scrapes₁ : Scrapes id (Exporter.of {} o ["host=db"]) ⟨first.1, ["host=db"], first.2.1⟩ first.2.2 :=
    .of_play rfl rfl rfl
  have scrapes₂ : Scrapes id first.2.2 ⟨second.1, ["host=db"], second.2.1⟩ second.2.2 :=
    .of_play (by decide +kernel) (by decide +kernel) rfl
  have scrapes₃ : Scrapes id second.2.2 ⟨third.1, ["host=db"], s⟩ third.2.2 :=
    .of_play (by decide +kernel) (by decide +kernel) rfl
  have rounds := ((Rounds.start.next scrapes₁).next scrapes₂).next scrapes₃
  obtain ⟨-, named⟩ := labels_name_source rounds
  obtain ⟨targets, own⟩ := named ⟨third.1, ["host=db"], s⟩ (by simp)
  dsimp only at targets own
  have read : Target.read "host=db" = .ok ⟨"host=db", "db:5432"⟩ := by decide +kernel
  refine ⟨by decide +kernel, by decide +kernel, ?_, ?_⟩
  · intro r member x inReport
    obtain ⟨r', rs, ⟨-, labels⟩, none, only⟩ := List.forall₂_cons_left_iff.1 targets
    rw [only, List.forall₂_nil_left_iff.1 none, List.mem_singleton] at member
    subst member
    obtain ⟨target, rest, readAgain, own⟩ := labels x inReport
    obtain rfl := Except.ok.inj (read.symm.trans readAgain)
    exact ⟨rest, own⟩
  · intro x member
    obtain ⟨rest, labels, names⟩ := own x member
    exact ⟨rest, labels, names⟩

end Exporter

end PgMetrics
