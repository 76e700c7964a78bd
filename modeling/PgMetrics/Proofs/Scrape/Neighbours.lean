import PgMetrics.Proofs.Scrape.Pass
import PgMetrics.Proofs.Session.Alike

namespace PgMetrics

open Dialogue

/-- What was exchanged with the servers of one connection string. -/
def heard (x : String) (t : List (Exchange String)) : List (Exchange String) :=
  t.filter (·.request.session? == some x)

theorem heard_append (x : String) (t t' : List (Exchange String)) : heard x (t ++ t') = heard x t ++ heard x t' :=
  List.filter_append ..

/-- All is exchanged with the servers of one connection string, but for the log. -/
def Concerns (x : String) (t : List (Exchange String)) : Prop :=
  ∀ y ∈ t, y.request.session? = some x ∨ y.request.isLog = true

namespace Concerns

variable {x : String} {t t' : List (Exchange String)}

theorem nil : Concerns x [] := by
  intro y member
  cases member

theorem cons {y : Exchange String} (first : y.request.session? = some x ∨ y.request.isLog = true)
    (rest : Concerns x t) : Concerns x (y :: t) :=
  List.forall_mem_cons.2 ⟨first, rest⟩

theorem append (first : Concerns x t) (second : Concerns x t') : Concerns x (t ++ t') :=
  List.forall_mem_append.2 ⟨first, second⟩

theorem logged (es : List LogEntry) : Concerns x (es.map .logged) := by
  intro y member
  obtain ⟨e, _, rfl⟩ := List.mem_map.1 member
  exact Or.inr rfl

theorem heard_eq_nil (concerns : Concerns x t) {z : String} (ne : z ≠ x) : heard z t = [] := by
  refine List.filter_eq_nil_iff.2 ?_
  intro y member
  obtain atX | log := concerns y member
  · rw [atX]
    simpa using ne.symm
  · obtain ⟨request, reply⟩ := y
    cases request <;> simp_all [Request.isLog, Request.session?]

end Concerns

namespace Registry

variable {r r' : Registry} {c : Connection} {x : String} {t : List (Exchange String)}
  {outcome : Except Failure Connection}

theorem Probes.concerns (probes : Probes Session.dsn r x c t outcome r') (own : c.target.dsn = x) :
    Concerns x t := by
  subst own
  cases probes with
  | alive => exact .cons (.inl rfl) .nil
  | dead => exact .cons (.inl rfl) (.cons (.inr rfl) (.cons (.inl rfl) .nil))

theorem Acquires.concerns (acquires : Acquires Session.dsn r x t outcome r') (keyed : r.Keyed) :
    Concerns x t := by
  cases acquires with
  | unreadable => exact .nil
  | unopened _ read => exact .cons (.inl (congrArg some (Target.dsn_of_read read))) .nil
  | opened _ read probes =>
    have own := Target.dsn_of_read read
    exact .cons (.inl (congrArg some own)) (probes.concerns own)
  | found atDsn probes => exact probes.concerns (keyed _ _ atDsn)

end Registry

namespace Plan

variable {p : Plan} {c c' : Connection} {loader loader' : Option Loader} {t : List (Exchange String)}
  {outcome : Except Failure (Option Sample)} {state : MapState}

theorem Refreshes.concerns (refreshes : Refreshes Session.dsn p c none t outcome state loader') {x : String}
    (own : c.target.dsn = x) : Concerns x t := by
  subst own
  cases refreshes with
  | failed => exact .cons (.inl rfl) .nil
  | done _ reads =>
    cases reads
    exact .cons (.inl rfl) ((Concerns.logged _).append (Concerns.nil.append (.logged _)))

/-- Without a document there is none afterwards. -/
theorem Refreshes.loader_eq_none (refreshes : Refreshes Session.dsn p c none t outcome state loader') :
    loader' = none := by
  cases refreshes with
  | failed => rfl
  | done _ reads advanced =>
    cases reads
    unfold advance at advanced
    dsimp only at advanced
    split at advanced
    · exact (Prod.mk.inj advanced).2.symm
    · exact (Prod.mk.inj advanced).2.symm

/-- The number of a session is of no account. -/
theorem Refreshes.alike (same : c.known = c'.known)
    (refreshes : Refreshes Session.dsn p c loader t outcome state loader') :
    Refreshes Session.dsn p c' loader t outcome state loader' := by
  rw [Connection.eq_of_known same]
  cases refreshes with
  | failed told => exact .failed told
  | done told reads advanced => exact .done told reads advanced

end Plan

namespace Exporter

/-- Scrapes one after the other, each with what was exchanged in it. -/
inductive Cycles {σ : Type} (address : Session → σ) :
    Exporter → List (List (Exchange σ) × Snapshot) → Exporter → Prop
  | start {e} : Cycles address e [] e
  | next {e e₁ e' t s cycles} : Runs (e.scrape (world address)) t (s, e₁) →
      Cycles address e₁ cycles e' → Cycles address e ((t, s) :: cycles) e'

/-- Exporters without a document that differ at most in what they know of one connection string. -/
structure Alike (d : String) (e e' : Exporter) : Prop where
  plan : e.plan = e'.plan
  dsns : e.dsns = e'.dsns
  loader : e.loader = none
  loader' : e'.loader = none
  registry : e.registry.Alike d e'.registry

variable {d x : String} {e e' e₁ e₁' : Exporter} {t t' : List (Exchange String)} {r : TargetReport}

theorem Alike.symm (alike : e.Alike d e') : e'.Alike d e where
  plan := alike.plan.symm
  dsns := alike.dsns.symm
  loader := alike.loader'
  loader' := alike.loader
  registry := alike.registry.symm

theorem remainder_concerns {c : Connection} (own : c.target.dsn = x) (outcome : Except Failure (Option Sample))
    (parts : List Part) : Concerns x (remainder Session.dsn c outcome parts) := by
  subst own
  refine (Concerns.logged _).append ?_
  induction parts with
  | nil => exact .nil
  | cons p parts ih => exact .cons (.inl rfl) ((Concerns.logged _).append ih)

theorem Passes.concerns (passes : Passes Session.dsn e x t r e₁) (loader : e.loader = none)
    (keyed : e.registry.Keyed) : Concerns x t := by
  cases passes with
  | unconnected acquires => exact (acquires.concerns keyed).append (.cons (.inr rfl) .nil)
  | connected acquires refreshes =>
    have own := acquires.keyed keyed _ _ acquires.get?_of_ok.1
    rw [loader] at refreshes
    exact (acquires.concerns keyed).append ((refreshes.concerns own).append (remainder_concerns own _ _))

/-- Another target than the one set apart is passed over with the same exchanges and the same report. -/
theorem Passes.alike (alike : e.Alike d e') (ne : x ≠ d) (passes : Passes Session.dsn e x t r e₁) :
    ∃ e₁', Passes Session.dsn e' x t r e₁' ∧ e₁.Alike d e₁' := by
  cases passes with
  | unconnected acquires =>
    obtain ⟨outcome', registry', acquires', same, after⟩ := acquires.alike alike.registry ne
    cases outcome' with
    | ok => cases same
    | error =>
      cases same
      exact ⟨_, .unconnected acquires', alike.plan, alike.dsns, alike.loader, alike.loader', after⟩
  | @connected t₁ t₂ c registry outcome state loader parts acquires refreshes sources =>
    obtain ⟨outcome', registry', acquires', same, after⟩ := acquires.alike alike.registry ne
    cases outcome' with
    | error => cases same
    | ok c' =>
      have known : c.known = c'.known := Except.ok.inj same
      have atNumber := Connection.eq_of_known known
      rw [alike.plan, alike.loader, ← alike.loader'] at refreshes
      generalize c'.session.number = n at atNumber
      subst atNumber
      have loader : loader = none := by
        rw [alike.loader'] at refreshes
        exact refreshes.loader_eq_none
      have sources' : parts.map Part.source = Connection.sources { c with state } e'.options := by
        rw [sources, options, alike.plan]
        rfl
      have passes' := Passes.connected acquires' (refreshes.alike known) sources'
      exact ⟨_, passes', alike.plan, alike.dsns, loader, loader, after.add rfl rfl⟩

/-- A pass over the target set apart is of no account. -/
theorem Passes.alike_left (alike : e.Alike d e') (passes : Passes Session.dsn e d t r e₁) : e₁.Alike d e' := by
  cases passes with
  | unconnected acquires =>
    exact ⟨alike.plan, alike.dsns, alike.loader, alike.loader', acquires.alike_left alike.registry⟩
  | @connected _ _ c _ _ state _ _ acquires refreshes =>
    have own := acquires.keyed alike.registry.keyed _ _ acquires.get?_of_ok.1
    have after := acquires.alike_left alike.registry
    rw [alike.loader] at refreshes
    refine ⟨alike.plan, alike.dsns, refreshes.loader_eq_none, alike.loader', ?_⟩
    refine after.of_constants_eq rfl (after.keyed.add rfl) ?_
    intro x ne
    exact Table.get?_insert_of_ne _ _ (own.symm ▸ ne)

/-- Passes over another target are the same once what is heard from it agrees. -/
theorem Passes.eq_of_heard {r' : TargetReport} (alike : e.Alike d e') (ne : x ≠ d)
    (passes : Passes Session.dsn e x t r e₁) (passes' : Passes Session.dsn e' x t' r' e₁')
    (agree : Agree (heard x t) (heard x t')) : t = t' ∧ r = r' ∧ e₁.Alike d e₁' := by
  have concerns := passes.concerns alike.loader alike.registry.keyed
  obtain ⟨e₂, passes₂, after⟩ := passes.alike alike ne
  obtain ⟨rfl, same⟩ := (runs_scrapeTarget.2 passes₂).eq_of_agree (·.session? == some x)
    (runs_scrapeTarget.2 passes') (fun y member other => (concerns y member).resolve_left (by simpa using other))
    agree
  cases same
  exact ⟨rfl, rfl, after⟩

theorem runs_scrapeTargets_cons {σ : Type} {address : Session → σ} {xs : List String} {t : List (Exchange σ)}
    {rs : List TargetReport} (run : Runs (e.scrapeTargets (world address) (x :: xs)) t (rs, e')) :
    ∃ t₁ r e₁ t₂ rs', Passes address e x t₁ r e₁ ∧ Runs (e₁.scrapeTargets (world address) xs) t₂ (rs', e') ∧
      t = t₁ ++ t₂ ∧ rs = r :: rs' := by
  obtain ⟨t₁, ⟨r, e₁⟩, _, first, rest, rfl⟩ := runs_bind.1 run
  obtain ⟨t₂, ⟨rs', e₂⟩, _, others, ended, rfl⟩ := runs_bind.1 rest
  obtain ⟨rfl, same⟩ := runs_pure.1 ended
  cases same
  exact ⟨t₁, r, e₁, t₂, rs', runs_scrapeTarget.1 first, others, by rw [List.append_nil], rfl⟩

/-- One list of targets, scraped by two exporters: whatever the target set apart does, the reports on the others
are the same. -/
theorem reports_eq_of_heard {xs : List String} {rs rs' : List TargetReport} (alike : e.Alike d e')
    (run : Runs (e.scrapeTargets (world Session.dsn) xs) t (rs, e₁))
    (run' : Runs (e'.scrapeTargets (world Session.dsn) xs) t' (rs', e₁'))
    (agree : ∀ y, y ≠ d → Agree (heard y t) (heard y t')) :
    e₁.Alike d e₁' ∧ ∀ (i : Nat) (y : String), xs[i]? = some y → y ≠ d → rs[i]? = rs'[i]? := by
  induction xs generalizing e e' t t' rs rs' with
  | nil =>
    obtain ⟨-, same⟩ := runs_pure.1 run
    obtain ⟨-, same'⟩ := runs_pure.1 run'
    cases same
    cases same'
    refine ⟨alike, ?_⟩
    intro i y atI
    cases atI
  | cons x xs ih =>
    obtain ⟨t₁, r, e₂, t₂, later, passes, others, rfl, rfl⟩ := runs_scrapeTargets_cons run
    obtain ⟨t₁', r', e₂', t₂', later', passes', others', rfl, rfl⟩ := runs_scrapeTargets_cons run'
    simp only [heard_append] at agree
    -- The target set apart says nothing to the others, and any other one goes the same way in both runs.
    have step : e₂.Alike d e₂' ∧ (x ≠ d → r = r') ∧ ∀ y, y ≠ d → Agree (heard y t₂) (heard y t₂') := by
      by_cases apart : x = d
      · subst apart
        have after := passes'.alike_left (passes.alike_left alike).symm
        refine ⟨after.symm, fun ne => absurd rfl ne, ?_⟩
        intro y ne
        have quiet := (passes.concerns alike.loader alike.registry.keyed).heard_eq_nil ne
        have quiet' := (passes'.concerns alike.loader' alike.registry.keyed').heard_eq_nil ne
        simpa only [quiet, quiet', List.nil_append] using agree y ne
      · obtain ⟨rfl, rfl, after⟩ := passes.eq_of_heard alike apart passes' (agree x apart).of_append
        exact ⟨after, fun _ => rfl, fun y ne => (agree y ne).of_append_left⟩
    obtain ⟨after, same, agreeLater⟩ := step
    obtain ⟨final, rest⟩ := ih after others others' agreeLater
    refine ⟨final, ?_⟩
    intro i y atI ne
    cases i with
    | zero =>
      cases atI
      exact congrArg some (same ne)
    | succ i => exact rest i y atI ne

theorem Passes.target_eq {σ : Type} {address : Session → σ} {t : List (Exchange σ)}
    (passes : Passes address e x t r e') :
    r.target = Dsn.redact x ∧ e'.plan = e.plan ∧ e'.dsns = e.dsns := by
  cases passes with
  | unconnected => exact ⟨rfl, rfl, rfl⟩
  | @connected _ _ _ _ outcome =>
    cases outcome <;> exact ⟨rfl, rfl, rfl⟩

/-- There is a report on each target, in order. -/
theorem scrapeTargets_target {σ : Type} {address : Session → σ} {xs : List String} {t : List (Exchange σ)}
    {rs : List TargetReport} (run : Runs (e.scrapeTargets (world address) xs) t (rs, e')) :
    rs.map (·.target) = xs.map Dsn.redact ∧ e'.plan = e.plan ∧ e'.dsns = e.dsns := by
  induction xs generalizing e t rs with
  | nil =>
    obtain ⟨-, same⟩ := runs_pure.1 run
    cases same
    exact ⟨rfl, rfl, rfl⟩
  | cons x xs ih =>
    obtain ⟨t₁, r, e₁, t₂, rs', passes, others, rfl, rfl⟩ := runs_scrapeTargets_cons run
    obtain ⟨first, plan₁, dsns₁⟩ := passes.target_eq
    obtain ⟨rest, plan, dsns⟩ := ih others
    refine ⟨?_, plan.trans plan₁, dsns.trans dsns₁⟩
    rw [List.map_cons, List.map_cons, first, rest]

/-- Without discovery, a scrape reads the clock, scrapes the given targets and reads the clock again. -/
theorem runs_scrape {σ : Type} {address : Session → σ} {t : List (Exchange σ)} {s : Snapshot}
    (given : e.options.autoDiscoverDatabases = false) (run : Runs (e.scrape (world address)) t (s, e')) :
    ∃ start finish t₁ e₁, Runs (e.scrapeTargets (world address) e.dsns) t₁ (s.reports, e₁) ∧
      t = ⟨.clock, start⟩ :: (t₁ ++ [⟨.clock, finish⟩]) ∧ e' = e₁.count s.reports := by
  obtain ⟨_, start, _, clock, choosing, rfl⟩ := runs_bind.1 run
  obtain ⟨_, ⟨xs, e₁⟩, _, chosen, scraping, rfl⟩ := runs_bind.1 choosing
  obtain ⟨t₁, ⟨reports, e₂⟩, _, scraped, finishing, rfl⟩ := runs_bind.1 scraping
  obtain ⟨_, finish, _, clock', ended, rfl⟩ := runs_bind.1 finishing
  obtain ⟨rfl, same⟩ := runs_pure.1 ended
  cases same
  rw [targets, given] at chosen
  obtain ⟨rfl, same⟩ := runs_pure.1 chosen
  cases same
  rw [runs_request.1 clock, runs_request.1 clock']
  exact ⟨start, finish, t₁, e₂, scraped, rfl, rfl⟩

theorem Cycles.target_eq {σ : Type} {address : Session → σ} {cycles : List (List (Exchange σ) × Snapshot)}
    (run : Cycles address e cycles e') (given : e.options.autoDiscoverDatabases = false) {k : Nat}
    {t : List (Exchange σ)} {s : Snapshot} (atCycle : cycles[k]? = some (t, s)) :
    s.reports.map (·.target) = e.dsns.map Dsn.redact := by
  induction run generalizing k with
  | start => cases atCycle
  | @next e _ e' t₁ s₁ cycles first _ ih =>
    obtain ⟨_, _, _, e₁, scraped, _, rfl⟩ := runs_scrape given first
    obtain ⟨reported, plan, dsns⟩ := scrapeTargets_target scraped
    cases k with
    | zero =>
      cases atCycle
      exact reported
    | succ k =>
      have given₁ : (e₁.count s₁.reports).options.autoDiscoverDatabases = false := by
        rw [options, count, plan]
        exact given
      rw [← dsns]
      exact ih given₁ atCycle

theorem heard_scrape (x : String) (start finish : Float) (t : List (Exchange String)) :
    heard x (⟨.clock, start⟩ :: (t ++ [⟨.clock, finish⟩])) = heard x t := by
  simp [heard, Request.session?]

theorem Alike.count (alike : e.Alike d e') (rs rs' : List TargetReport) : (e.count rs).Alike d (e'.count rs') :=
  ⟨alike.plan, alike.dsns, alike.loader, alike.loader', alike.registry⟩

theorem alike_of {catalog : Catalog} {options : Options} {dsns : List String} (bare : options.extensionPath = none)
    (d : String) : (Exporter.of catalog options dsns).Alike d (Exporter.of catalog options dsns) := by
  have loader : (Exporter.of catalog options dsns).loader = none := by
    rw [Exporter.of, bare]
    rfl
  exact ⟨rfl, rfl, loader, loader, rfl, Registry.keyed_new _, Registry.keyed_new _, fun _ _ => rfl⟩

/-- Two exporters that differ at most in what they know of one target, scraping over and over. -/
theorem Cycles.reports_eq {cycles cycles' : List (List (Exchange String) × Snapshot)} (alike : e.Alike d e')
    (given : e.options.autoDiscoverDatabases = false) (run : Cycles Session.dsn e cycles e₁)
    (run' : Cycles Session.dsn e' cycles' e₁')
    (agree : ∀ (k : Nat) t s t' s', cycles[k]? = some (t, s) → cycles'[k]? = some (t', s') →
      ∀ y, y ≠ d → Agree (heard y t) (heard y t'))
    {k : Nat} {s s' : Snapshot} (atCycle : cycles[k]? = some (t, s)) (atCycle' : cycles'[k]? = some (t', s')) :
    ∀ (i : Nat) (y : String), e.dsns[i]? = some y → y ≠ d → s.reports[i]? = s'.reports[i]? := by
  induction run generalizing e' cycles' k with
  | start => cases atCycle
  | @next e _ _ t₁ s₁ cycles first _ ih =>
    cases run' with
    | start => cases atCycle'
    | @next _ _ _ t₁' s₁' cycles' first' rest' =>
      have given' : e'.options.autoDiscoverDatabases = false := by
        rw [options, ← alike.plan]
        exact given
      obtain ⟨_, _, _, e₂, scraped, rfl, rfl⟩ := runs_scrape given first
      obtain ⟨_, _, _, e₂', scraped', rfl, rfl⟩ := runs_scrape given' first'
      have agreeNow := agree 0 _ _ _ _ rfl rfl
      simp only [heard_scrape] at agreeNow
      rw [← alike.dsns] at scraped'
      obtain ⟨after, same⟩ := reports_eq_of_heard alike scraped scraped' agreeNow
      cases k with
      | zero =>
        cases atCycle
        cases atCycle'
        exact same
      | succ k =>
        obtain ⟨-, plan, dsns⟩ := scrapeTargets_target scraped
        have given₂ : (e₂.count s₁.reports).options.autoDiscoverDatabases = false := by
          rw [options, Exporter.count, plan]
          exact given
        rw [← dsns]
        exact ih (after.count _ _) given₂ rest' (fun k => agree (k + 1)) atCycle atCycle'

/-- Scraping given targets without a document, every scrape reports on each target once, in order. In two runs in
which all other servers reply alike, the reports on them are the same at every scrape, whatever one target does. -/
theorem reports_unmoved_by_neighbour {catalog : Catalog} {options : Options} {dsns : List String} {d : String}
    (given : options.autoDiscoverDatabases = false) (bare : options.extensionPath = none)
    {cycles cycles' : List (List (Exchange String) × Snapshot)}
    (run : Cycles Session.dsn (Exporter.of catalog options dsns) cycles e)
    (run' : Cycles Session.dsn (Exporter.of catalog options dsns) cycles' e')
    (agree : ∀ (k : Nat) t s t' s', cycles[k]? = some (t, s) → cycles'[k]? = some (t', s') →
      ∀ y, y ≠ d → Agree (heard y t) (heard y t')) :
    (∀ (k : Nat) t s, cycles[k]? = some (t, s) → s.reports.map (·.target) = dsns.map Dsn.redact) ∧
    ∀ (k : Nat) t s t' s', cycles[k]? = some (t, s) → cycles'[k]? = some (t', s') →
      ∀ (i : Nat) (y : String), dsns[i]? = some y → y ≠ d → s.reports[i]? = s'.reports[i]? := by
  refine ⟨fun k t s atCycle => run.target_eq given atCycle, ?_⟩
  intro k t s t' s' atCycle atCycle'
  exact Cycles.reports_eq (alike_of bare d) given run run' agree atCycle atCycle'

/-- The second of two servers is lost in one run and there in the other. -/
theorem reports_with_lost_neighbour :
    let e : Exporter := Exporter.of {} {} ["host=a", "host=b"]
    let replies (lost : Bool) : (r : Request String) → r.Reply
      | .connect x => if lost && x == "host=b" then .error (.of (.database .unreachable)) else .ok ()
      | .ping _ => .ok ()
      | .query _ _ => .ok ⟨["version"], [[.text "PostgreSQL 11.2"]]⟩
      | .close _ => ()
      | .content _ => .error .notFound
      | .save _ _ => .error .notFound
      | .environment _ => none
      | .log _ => ()
      | .clock => 0.0
      | .pause _ => ()
      | .print _ => ()
      | .printError _ => ()
      | .terminal => false
      | .exit _ => ()
    let run (lost : Bool) := play (fun _ => replies lost) [] (e.scrape (world Session.dsn))
    (run true).2.1.reports.map (·.target) = ["host=a", "host=b"].map Dsn.redact ∧
      (run true).2.1.reports[0]? = (run false).2.1.reports[0]? := by
  intro e replies run
  have cycle (lost : Bool) : Cycles Session.dsn e [((run lost).1, (run lost).2.1)] (run lost).2.2 :=
    .next (runs_play _ _ _) .start
  have recorded (lost : Bool) (y : String) : ∀ x ∈ heard y (run lost).1, x.reply = replies lost x.request :=
    fun x member => reply_of_mem_play _ _ _ x (List.mem_filter.1 member).1
  have agree (y : String) (ne : y ≠ "host=b") : Agree (heard y (run true).1) (heard y (run false).1) := by
    refine agree_of_replies (recorded true y) (recorded false y) ?_
    intro x member
    have atY := (List.mem_filter.1 member).2
    obtain ⟨request, _⟩ := x
    cases request with
    | connect z =>
      have eq : z = y := by simpa [Request.session?] using atY
      simp [replies, eq, ne]
    | _ => rfl
  have agreeAt (k : Nat) (t s t' s') (atCycle : [((run true).1, (run true).2.1)][k]? = some (t, s))
      (atCycle' : [((run false).1, (run false).2.1)][k]? = some (t', s')) :
      ∀ y, y ≠ "host=b" → Agree (heard y t) (heard y t') := by
    cases k with
    | succ k => cases atCycle
    | zero =>
      cases atCycle
      cases atCycle'
      exact agree
  obtain ⟨targets, same⟩ := reports_unmoved_by_neighbour rfl rfl (cycle true) (cycle false) agreeAt
  exact ⟨targets 0 _ _ rfl, same 0 _ _ _ _ rfl rfl 0 "host=a" rfl (by decide)⟩

end Exporter

end PgMetrics
