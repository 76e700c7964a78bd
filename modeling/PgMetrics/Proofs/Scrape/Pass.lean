import PgMetrics.Proofs.Lockstep
import PgMetrics.Proofs.Scrape.Sources
import PgMetrics.Proofs.Session.Acquire
import PgMetrics.Proofs.Session.Refresh

namespace PgMetrics

open Dialogue

variable {σ : Type}

/-- A query as it was asked and replied. -/
def Exchange.query? : Exchange σ → Option (σ × String × Except Failure Answer)
  | ⟨.query s sql, outcome⟩ => some (s, sql, outcome)
  | _ => none

def queries (t : List (Exchange σ)) : List (σ × String × Except Failure Answer) :=
  t.filterMap Exchange.query?

theorem queries_append (t t' : List (Exchange σ)) : queries (t ++ t') = queries t ++ queries t' :=
  List.filterMap_append

theorem queries_logged (es : List LogEntry) : queries (es.map (Exchange.logged : LogEntry → Exchange σ)) = [] := by
  simp [queries, List.filterMap_map, Exchange.query?, Exchange.logged]

theorem queries_spoken (t : List (Exchange σ)) : queries (spoken t) = queries t := by
  unfold queries spoken
  rw [List.filterMap_filter]
  congr 1
  funext x
  obtain ⟨request, reply⟩ := x
  cases request <;> rfl

namespace Part

theorem spoken_exchanges (address : Session → σ) (c : Connection) (parts : List Part) :
    spoken (parts.flatMap (·.exchanges address c)) = parts.map (·.exchange (address c.session)) := by
  induction parts with
  | nil => rfl
  | cons p parts ih =>
    rw [List.flatMap_cons, spoken_append, ih]
    change p.exchange (address c.session) :: spoken ((p.log c.target.fingerprint).map .logged) ++ _ = _
    rw [spoken_logged]
    rfl

theorem queries_exchange (s : σ) (parts : List Part) :
    queries (parts.map (·.exchange s)) = parts.map fun p => (s, p.source.sql, p.outcome) := by
  induction parts with
  | nil => rfl
  | cons p parts ih => exact congrArg _ ih

/-- Of the same sources, parts are the same once the same replies were given. -/
theorem eq_of_agree {s : σ} {parts parts' : List Part}
    (sources : parts.map (·.source) = parts'.map (·.source))
    (agree : Agree (parts.map (·.exchange s)) (parts'.map (·.exchange s))) : parts = parts' := by
  induction parts generalizing parts' with
  | nil => exact (List.map_eq_nil_iff.1 sources.symm).symm
  | cons p parts ih =>
    obtain ⟨⟨source, outcome⟩, others, rfl, rfl, rest⟩ := List.map_eq_cons_iff.1 sources.symm
    obtain ⟨equal, later⟩ := agree.of_cons rfl
    cases equal
    rw [ih rest.symm later]

/-- Parts that go as others do but for one reply, and after it agree with them as long as the same is asked, differ
in that one part alone. -/
theorem eq_of_exchanges {s : σ} {before after parts : List Part} {p : Part} {x : Exchange σ}
    {future : List (Exchange σ)}
    (sources : parts.map (·.source) = (before ++ p :: after).map (·.source))
    (said : parts.map (·.exchange s) = before.map (·.exchange s) ++ x :: future)
    (agree : Agree (after.map (·.exchange s)) future) :
    ∃ outcome, x = exchange s ⟨p.source, outcome⟩ ∧ parts = before ++ ⟨p.source, outcome⟩ :: after := by
  induction before generalizing parts with
  | nil =>
    obtain ⟨⟨source, outcome⟩, others, rfl, rfl, rest⟩ := List.map_eq_cons_iff.1 sources
    obtain ⟨rfl, rfl⟩ := List.cons.inj said
    exact ⟨outcome, rfl, by rw [eq_of_agree rest.symm agree]; rfl⟩
  | cons b before ih =>
    obtain ⟨⟨source, outcome⟩, others, rfl, rfl, rest⟩ := List.map_eq_cons_iff.1 sources
    obtain ⟨same, later⟩ := List.cons.inj said
    obtain ⟨outcome', atPart, rfl⟩ := ih rest later
    cases same
    exact ⟨outcome', atPart, rfl⟩

end Part

namespace Registry

variable {address : Session → σ} {r r' : Registry} {dsn : String} {t : List (Exchange σ)}
  {outcome : Except Failure Connection}

/-- No query is made for the sake of a connection. -/
theorem Acquires.queries_eq (acquires : Acquires address r dsn t outcome r') : queries t = [] := by
  have quiet {r c t r'} (probes : Probes address r dsn c t outcome r') : queries t = [] := by
    cases probes <;> rfl
  cases acquires with
  | unreadable => rfl
  | unopened => rfl
  | opened _ _ probes => exact (quiet probes : queries _ = [])
  | found _ probes => exact quiet probes

end Registry

namespace Plan

variable {address : Session → σ} {p : Plan} {c : Connection} {loader loader' : Option Loader}
  {t : List (Exchange σ)} {outcome : Except Failure (Option Sample)} {state : MapState}

/-- What the reply to the query for the version makes of the version. -/
def versionOutcome (p : Plan) (labels : Labels) (reply : Except Failure Answer) :
    Except Failure (Option Sample) :=
  (Banner.ofReply reply).map (p.versionSample labels)

/-- The version is all that a refresh queries. -/
theorem Refreshes.queries_eq (refreshes : Refreshes address p c loader t outcome state loader') :
    ∃ reply, queries t = [(address c.session, Banner.query, reply)] ∧
      outcome = p.versionOutcome c.labels reply := by
  cases refreshes with
  | @failed reply e told =>
    refine ⟨reply, rfl, ?_⟩
    rw [versionOutcome, told]
    rfl
  | @done reply banner t content _ _ told reads =>
    refine ⟨reply, ?_, ?_⟩
    · have silent : queries t = [] := by
        cases reads <;> rfl
      change (address c.session, Banner.query, reply) :: queries _ = _
      rw [queries_append, queries_append, queries_logged, queries_logged, silent]
      rfl
    · rw [versionOutcome, told]
      rfl

end Plan

namespace Exporter

/-- All that is exchanged once the maps are refreshed. -/
def remainder (address : Session → σ) (c : Connection) (outcome : Except Failure (Option Sample))
    (parts : List Part) : List (Exchange σ) :=
  (versionLog c.target.fingerprint outcome).map .logged ++ parts.flatMap (·.exchanges address c)

theorem spoken_remainder (address : Session → σ) (c : Connection) (outcome : Except Failure (Option Sample))
    (parts : List Part) :
    spoken (remainder address c outcome parts) = parts.map (·.exchange (address c.session)) := by
  rw [remainder, spoken_append, spoken_logged, Part.spoken_exchanges]
  rfl

/-- A pass ends without a connection, or it refreshes the maps and then reads all sources of the connection. -/
inductive Passes (address : Session → σ) (e : Exporter) (dsn : String) :
    List (Exchange σ) → TargetReport → Exporter → Prop
  | unconnected {t f registry} : e.registry.Acquires address dsn t (.error f) registry →
      Passes address e dsn (t ++ [.logged (.openingFailed (Dsn.redact dsn) f)])
        { target := Dsn.redact dsn, connectionFailure := some f } { e with registry }
  | connected {t t' c registry outcome state loader parts} :
      e.registry.Acquires address dsn t (.ok c) registry →
      e.plan.Refreshes address c e.loader t' outcome state loader →
      parts.map Part.source = Connection.sources { c with state } e.options →
      Passes address e dsn
        (t ++ (t' ++ remainder address { c with state } outcome parts))
        ((addVersion { target := Dsn.redact dsn } outcome).withParts parts)
        { e with registry := registry.add c.target.dsn { c with state }, loader }

/-- The settings, if they are enabled, and the views are read as one list of sources. -/
theorem runs_sources {address : Session → σ} {c : Connection} {o : Options} {t : List (Exchange σ)}
    {r r' : TargetReport} {e e' : Exporter} :
    Runs (do
      let r ← if o.disableSettingsMetrics then pure r else scrapeSettings (world address) c r
      let r ← scrapeViews (world address) c o.emitUntypedColumns c.state.maps.views.entries r
      pure (r, e)) t (r', e') ↔
      ∃ parts : List Part, parts.map (·.source) = c.sources o ∧ t = parts.flatMap (·.exchanges address c) ∧
        r' = r.withParts parts ∧ e' = e := by
  have reading : Runs (Source.readAll (world address) c (c.sources o) r >>= fun r => pure (r, e)) t (r', e') ↔
      ∃ parts : List Part, parts.map (·.source) = c.sources o ∧ t = parts.flatMap (·.exchanges address c) ∧
        r' = r.withParts parts ∧ e' = e := by
    simp only [runs_bind, Source.runs_readAll, runs_pure, Prod.mk.injEq]
    constructor
    · rintro ⟨_, _, _, ⟨parts, sources, rfl, rfl⟩, ⟨rfl, rfl, rfl⟩, rfl⟩
      exact ⟨parts, sources, List.append_nil _, rfl, rfl⟩
    · rintro ⟨parts, sources, rfl, rfl, rfl⟩
      exact ⟨_, _, _, ⟨parts, sources, rfl, rfl⟩, ⟨rfl, rfl, rfl⟩, (List.append_nil _).symm⟩
  rw [← reading]
  simp only [scrapeSettings_eq_read, scrapeViews_eq_readAll, Connection.sources]
  cases o.disableSettingsMetrics with
  | true => exact Iff.rfl
  | false =>
    simp only [Bool.false_eq_true, if_false, List.singleton_append, Source.readAll, bind_assoc]

theorem runs_scrapeTarget {address : Session → σ} {e e' : Exporter} {dsn : String} {t : List (Exchange σ)}
    {r : TargetReport} :
    Runs (e.scrapeTarget (world address) dsn) t (r, e') ↔ Passes address e dsn t r e' := by
  constructor
  · intro run
    obtain ⟨t₁, ⟨outcome, registry⟩, _, acquiring, rest, rfl⟩ := runs_bind.1 run
    cases outcome with
    | error f =>
      obtain ⟨_, _, _, logged, ended, rfl⟩ := runs_bind.1 rest
      obtain ⟨rfl, same⟩ := runs_pure.1 ended
      cases same
      rw [runs_request.1 logged]
      exact .unconnected (Registry.runs_acquire.1 acquiring)
    | ok c =>
      obtain ⟨_, _, _, refreshing, passing, rfl⟩ := runs_bind.1 rest
      obtain ⟨t₂, ⟨outcome, state, loader⟩, _, refreshed, kept, rfl⟩ := runs_bind.1 refreshing
      obtain ⟨rfl, rfl⟩ := runs_pure.1 kept
      obtain ⟨_, _, _, logged, reading, rfl⟩ := runs_bind.1 passing
      obtain ⟨parts, sources, rfl, rfl, rfl⟩ := runs_sources.1 reading
      rw [runs_logAll.1 logged, List.append_nil]
      exact .connected (c := c) (Registry.runs_acquire.1 acquiring) (Plan.runs_refresh.1 refreshed) sources
  · intro passes
    cases passes with
    | unconnected acquires =>
      exact runs_bind.2 ⟨_, _, _, Registry.runs_acquire.2 acquires, .ask .done, rfl⟩
    | @connected _ t₂ c registry outcome state loader parts acquires refreshes sources =>
      let kept : Exporter := { e with registry := registry.add c.target.dsn { c with state }, loader }
      refine runs_bind.2 ⟨_, _, _, Registry.runs_acquire.2 acquires, ?_, rfl⟩
      refine runs_bind.2 ⟨t₂, (outcome, { c with state }, kept), _, ?_, ?_, rfl⟩
      · exact runs_bind.2 ⟨_, _, _, Plan.runs_refresh.2 refreshes, .done, (List.append_nil _).symm⟩
      · exact runs_bind.2 ⟨_, (), _, runs_logAll.2 rfl, runs_sources.2 ⟨parts, sources, rfl, rfl, rfl⟩, rfl⟩

/-- What a pass with a connection comes to. Its parts are what the sources of the connection gave, and its lead is
what was said before the first of them. -/
structure ConnectedPass (e : Exporter) (dsn : String) (t : List (Exchange Session)) (r : TargetReport) (e' : Exporter)
    (c : Connection) (version : Except Failure Answer) (lead : List (Exchange Session)) (parts : List Part) :
    Prop where
  kept : e'.registry.connections.get? c.target.dsn = some c
  own : e.registry.Keyed → c.target.dsn = dsn
  answered : ⟨.ping c.session, .ok ()⟩ ∈ lead
  sources : parts.map (·.source) = c.sources e.options
  ascending : ((c.state.maps.views.entries.filterMap (c.source? e.options.emitUntypedColumns)).map
    (·.name)).Pairwise (· < ·)
  said : spoken t = lead ++ parts.map (·.exchange c.session)
  asked : queries t = (c.session, Banner.query, version) ::
    parts.map fun p => (c.session, p.source.sql, p.outcome)
  report : r = (addVersion { target := Dsn.redact dsn } (e.plan.versionOutcome c.labels version)).withParts parts
  failed : r.viewFailures.map (·.view) = (parts.filter Part.fails).map (·.source.name)

theorem viewFailures_addVersion (r : TargetReport) (outcome : Except Failure (Option Sample)) :
    (addVersion r outcome).viewFailures = r.viewFailures := by
  cases outcome <;> rfl

theorem Passes.connectionFailure_eq {e e' : Exporter} {dsn : String} {t : List (Exchange Session)}
    {r : TargetReport} {f : Failure} (passes : Passes id e dsn t r e') (failed : r.connectionFailure = some f) :
    queries t = [] ∧ r = { target := Dsn.redact dsn, connectionFailure := some f } := by
  cases passes with
  | unconnected acquires =>
    cases failed
    rw [queries_append, acquires.queries_eq]
    exact ⟨rfl, rfl⟩
  | @connected _ _ _ _ outcome =>
    cases outcome <;> cases failed

section Connected

variable {e e' : Exporter} {dsn : String} {t₁ t₂ : List (Exchange Session)} {c : Connection} {registry : Registry}
  {outcome : Except Failure (Option Sample)} {state : MapState} {loader : Option Loader}

/-- A pass that begins as another one had the same connection and asks the same sources. -/
theorem Passes.parts_of_lead (acquires : e.registry.Acquires id dsn t₁ (.ok c) registry)
    (refreshes : e.plan.Refreshes id c e.loader t₂ outcome state loader) {t future : List (Exchange Session)}
    {r : TargetReport} (passes : Passes id e dsn t r e')
    (said : spoken t = spoken t₁ ++ (spoken t₂ ++ future)) :
    ∃ parts : List Part, parts.map (·.source) = Connection.sources { c with state } e.options ∧
      parts.map (·.exchange c.session) = future ∧
      t = t₁ ++ (t₂ ++ remainder id { c with state } outcome parts) ∧
      r = (addVersion { target := Dsn.redact dsn } outcome).withParts parts ∧
      e' = { e with registry := registry.add c.target.dsn { c with state }, loader } := by
  obtain ⟨reply, asked, -⟩ := refreshes.queries_eq
  cases passes with
  | @unconnected t f registry' acquires' =>
    have none : queries (spoken t₁ ++ (spoken t₂ ++ future)) = [] := by
      rw [← said, queries_spoken, queries_append, acquires'.queries_eq]
      rfl
    rw [queries_append, queries_append, queries_spoken, queries_spoken, asked] at none
    simp at none
  | @connected t₁' t₂' c' registry' outcome' state' loader' parts acquires' refreshes' sources =>
    -- Along one record there is one way to get a connection and one way to refresh it.
    rw [spoken_append, spoken_append, spoken_remainder] at said
    obtain ⟨rfl, same⟩ := (Registry.runs_acquire.2 acquires).eq_within (Registry.runs_acquire.2 acquires')
      ⟨_, said.symm⟩ ⟨_, rfl⟩
    cases same
    rw [List.append_cancel_left_eq] at said
    obtain ⟨rfl, same⟩ := (Plan.runs_refresh.2 refreshes).eq_within (Plan.runs_refresh.2 refreshes')
      ⟨_, said.symm⟩ ⟨_, rfl⟩
    cases same
    rw [List.append_cancel_left_eq] at said
    exact ⟨parts, sources, said, rfl, rfl, rfl⟩

theorem pass_of_acquires (acquires : e.registry.Acquires id dsn t₁ (.ok c) registry)
    {version : Except Failure Answer} (asked : queries t₂ = [(c.session, Banner.query, version)])
    {parts : List Part} (sources : parts.map (·.source) = Connection.sources { c with state } e.options) :
    ConnectedPass e dsn
      (t₁ ++ (t₂ ++ remainder id { c with state } (e.plan.versionOutcome c.labels version) parts))
      ((addVersion { target := Dsn.redact dsn } (e.plan.versionOutcome c.labels version)).withParts parts)
      { e with registry := registry.add c.target.dsn { c with state }, loader }
      { c with state } version (spoken t₁ ++ spoken t₂) parts := by
  obtain ⟨atDsn, pinged⟩ := acquires.get?_of_ok
  have said : spoken (t₁ ++ (t₂ ++
      remainder id { c with state } (e.plan.versionOutcome c.labels version) parts)) =
      spoken t₁ ++ spoken t₂ ++ parts.map (·.exchange c.session) := by
    rw [spoken_append, spoken_append, spoken_remainder, List.append_assoc]
    rfl
  refine ⟨Table.get?_insert_self .., ?_, ?_, sources, Connection.views_ascending _ _, said, ?_, rfl, ?_⟩
  · intro keyed
    exact acquires.keyed keyed dsn c atDsn
  · exact List.mem_append_left _ (List.mem_filter.2 ⟨pinged, rfl⟩)
  · rw [← queries_spoken, said, queries_append, queries_append, queries_spoken, queries_spoken,
      acquires.queries_eq, asked, Part.queries_exchange]
    rfl
  · rw [TargetReport.withParts_viewFailures, viewFailures_addVersion]
    rfl

end Connected

/-- A pass without a connection queries nothing and reports nothing else. With one it asks for the version, then for
each source in order, whatever failed before; the failures it reports are those of the sources that failed. Any
other reply could have been given for one source, and a pass that differs in that reply alone reports the same of
the version and of all other sources. -/
theorem failures_stay_with_their_source {e e' : Exporter} {dsn : String} {t : List (Exchange Session)}
    {r : TargetReport} (run : Runs (e.scrapeTarget (world id) dsn) t (r, e')) :
    (∀ f, r.connectionFailure = some f →
      queries t = [] ∧ r = { target := Dsn.redact dsn, connectionFailure := some f }) ∧
    (r.connectionFailure = none → ∃ c version lead parts, ConnectedPass e dsn t r e' c version lead parts ∧
      ∀ before p after, parts = before ++ p :: after →
        (∀ outcome, ∃ t' r', Runs (e.scrapeTarget (world id) dsn) t' (r', e') ∧
          spoken t' = lead ++ (before.map (·.exchange c.session) ++
            Part.exchange c.session ⟨p.source, outcome⟩ :: after.map (·.exchange c.session))) ∧
        ∀ t' r' e'' x future, Runs (e.scrapeTarget (world id) dsn) t' (r', e'') →
          spoken t' = lead ++ (before.map (·.exchange c.session) ++ x :: future) →
          Agree (after.map (·.exchange c.session)) future →
          ∃ outcome, x = Part.exchange c.session ⟨p.source, outcome⟩ ∧
            ConnectedPass e dsn t' r' e'' c version lead (before ++ ⟨p.source, outcome⟩ :: after) ∧ e'' = e') := by
  have passes := runs_scrapeTarget.1 run
  refine ⟨fun f => passes.connectionFailure_eq, ?_⟩
  intro connected
  cases passes with
  | unconnected => cases connected
  | @connected t₁ t₂ c registry outcome state loader parts acquires refreshes sources =>
    obtain ⟨version, asked, rfl⟩ := refreshes.queries_eq
    refine ⟨_, version, _, parts, pass_of_acquires acquires asked sources, ?_⟩
    rintro before p after rfl
    have replaced (outcome) : (before ++ (⟨p.source, outcome⟩ : Part) :: after).map (·.source) =
        Connection.sources { c with state } e.options := by
      rw [← sources]
      simp
    constructor
    · intro outcome
      refine ⟨_, _, runs_scrapeTarget.2 (.connected acquires refreshes (replaced outcome)), ?_⟩
      rw [spoken_append, spoken_append, spoken_remainder, List.append_assoc, List.map_append]
      rfl
    · intro t' r' e'' x future run' said agree
      rw [List.append_assoc] at said
      obtain ⟨parts', sources', exchanges, rfl, rfl, rfl⟩ :=
        (runs_scrapeTarget.1 run').parts_of_lead acquires refreshes said
      obtain ⟨outcome, atPart, rfl⟩ := Part.eq_of_exchanges (sources'.trans sources.symm) exchanges agree
      exact ⟨outcome, atPart, pass_of_acquires acquires asked sources', rfl⟩

/-- Of two views the first is missing, and the version cannot be asked for; the second view is read all the same. -/
theorem pass_over_missing_view :
    let views : Table ViewMap := ⟨[("pg_a", ⟨[], .empty⟩), ("pg_b", ⟨[], .empty⟩)], by decide⟩
    let c : Connection :=
      { session := ⟨0, ⟨"host=db", "db:5432"⟩⟩, labels := [], state := { maps := { views } } }
    let e : Exporter :=
      { plan := ⟨{}, {}⟩, dsns := ["host=db"], registry := Registry.add {} "host=db" c, loader := none }
    ∃ t r e', Runs (e.scrapeTarget (world id) "host=db") t (r, e') ∧
      (queries t).map (·.2.2.toBool) = [false, true, false, true] ∧
      r.viewFailures.map (·.view) = ["pg_a"] ∧
      ∃ c version lead parts, ConnectedPass e "host=db" t r e' c version lead parts := by
  intro views c e
  let missing : Except Failure Answer := .error (.of (.database .unreachable))
  let empty : Except Failure Answer := .ok ⟨[], []⟩
  let parts : List Part :=
    [⟨.settings [], empty⟩, ⟨.ofView ⟨"pg_a", ⟨[], .empty⟩, [], true⟩ ("SELECT * FROM " ++ "pg_a" ++ ";"), missing⟩,
      ⟨.ofView ⟨"pg_b", ⟨[], .empty⟩, [], true⟩ ("SELECT * FROM " ++ "pg_b" ++ ";"), empty⟩]
  have acquires : e.registry.Acquires id "host=db" _ (.ok c) _ := .found rfl .alive
  have refreshes : e.plan.Refreshes id c e.loader _ _ _ _ := .failed (rfl : Banner.ofReply missing = .error _)
  have sources : parts.map Part.source = c.sources e.options := rfl
  have run := runs_scrapeTarget.2 (.connected acquires refreshes sources)
  obtain ⟨c, version, lead, parts, pass, _⟩ := (failures_stay_with_their_source run).2 rfl
  exact ⟨_, _, _, run, rfl, rfl, c, version, lead, parts, pass⟩

end Exporter

end PgMetrics
