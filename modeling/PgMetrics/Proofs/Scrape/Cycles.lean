import PgMetrics.Proofs.Replies
import PgMetrics.Proofs.Scrape.Neighbours
import PgMetrics.Proofs.Session.MapCache
import PgMetrics.Proofs.Session.Renewal

namespace PgMetrics

open Dialogue

variable {σ : Type}

/-- Of strings that are the same only the first stays, and only if it was not seen before. -/
theorem Discovery.distinct_nodup (seen ss : List String) :
    (distinct seen ss).Nodup ∧ ∀ s ∈ distinct seen ss, s ∉ seen := by
  induction ss generalizing seen with
  | nil => exact ⟨.nil, fun s member => (by cases member)⟩
  | cons s ss ih =>
    unfold distinct
    split
    · exact ih seen
    · rename_i new
      obtain ⟨nodup, unseen⟩ := ih (s :: seen)
      refine ⟨List.nodup_cons.2 ⟨fun again => unseen s again (List.mem_cons_self ..), nodup⟩, ?_⟩
      intro x member
      obtain rfl | later := List.mem_cons.1 member
      · exact new
      · exact fun before => unseen x later (List.mem_cons_of_mem _ before)

/-- Whether the maps of the target were brought up to date. -/
def TargetReport.isRefreshed (r : TargetReport) : Bool :=
  r.connectionFailure.isNone && r.versionFailure.isNone

/-- A scrape of all targets: what was exchanged, the connection strings of the targets and what came of it. -/
structure Cycle (σ : Type) where
  exchanges : List (Exchange σ)
  targets : List String
  snapshot : Snapshot

namespace Cycle

/-- The targets whose maps were brought up to date. -/
def refreshed (d : Cycle σ) : List String :=
  ((d.targets.zip d.snapshot.reports).filter (·.2.isRefreshed)).map (·.1)

/-- What came of reading the document, each time that it was read. -/
def contents (d : Cycle σ) : List Content :=
  d.exchanges.filterMap Exchange.content?

def content? (d : Cycle σ) : Option Content :=
  d.contents.head?

/-- The document does not change while it lasts. -/
def Steady (d : Cycle σ) : Prop :=
  ∀ a ∈ d.contents, ∀ b ∈ d.contents, a = b

theorem steady_of_contents {d : Cycle σ} (c : Content) (same : ∀ a ∈ d.contents, a = c) : d.Steady :=
  fun a memA b memB => (same a memA).trans (same b memB).symm

end Cycle

namespace Exporter

variable {address : Session → σ} {e e₁ e' : Exporter} {x : String} {t : List (Exchange σ)} {r : TargetReport}

/-- The targets are chosen between two looks at the clock, and then each is scraped. -/
inductive Scrapes (address : Session → σ) (e : Exporter) : Cycle σ → Exporter → Prop
  | mk {start finish t₁ t₂ xs rs e₁ e₂} : Runs (e.targets (world address)) t₁ (xs, e₁) →
      Runs (e₁.scrapeTargets (world address) xs) t₂ (rs, e₂) →
      Scrapes address e
        ⟨⟨.clock, start⟩ :: (t₁ ++ (t₂ ++ [⟨.clock, finish⟩])), xs,
          ⟨rs, (e₂.count rs).operational rs (finish - start)⟩⟩ (e₂.count rs)

theorem runs_scrape_iff {s : Snapshot} :
    Runs (e.scrape (world address)) t (s, e') ↔ ∃ xs, Scrapes address e ⟨t, xs, s⟩ e' := by
  constructor
  · intro run
    obtain ⟨_, start, _, clock, choosing, rfl⟩ := runs_bind.1 run
    obtain ⟨t₁, ⟨xs, e₁⟩, _, chosen, scraping, rfl⟩ := runs_bind.1 choosing
    obtain ⟨t₂, ⟨rs, e₂⟩, _, scraped, finishing, rfl⟩ := runs_bind.1 scraping
    obtain ⟨_, finish, _, clock', ended, rfl⟩ := runs_bind.1 finishing
    obtain ⟨rfl, same⟩ := runs_pure.1 ended
    cases same
    rw [runs_request.1 clock, runs_request.1 clock']
    exact ⟨xs, .mk chosen scraped⟩
  · rintro ⟨xs, scrapes⟩
    cases scrapes with
    | @mk start finish t₁ t₂ _ _ _ _ chosen scraped =>
      refine runs_bind.2 ⟨[⟨.clock, start⟩], start, _, runs_request.2 rfl, ?_, rfl⟩
      refine runs_bind.2 ⟨t₁, _, _, chosen, ?_, rfl⟩
      refine runs_bind.2 ⟨t₂, _, _, scraped, ?_, rfl⟩
      exact runs_bind.2 ⟨[⟨.clock, finish⟩], finish, _, runs_request.2 rfl, .done, rfl⟩

/-- Without discovery the targets are those that are given. -/
theorem Scrapes.of_run {s : Snapshot} (given : e.options.autoDiscoverDatabases = false)
    (run : Runs (e.scrape (world address)) t (s, e')) : Scrapes address e ⟨t, e.dsns, s⟩ e' := by
  obtain ⟨xs, scrapes⟩ := runs_scrape_iff.1 run
  cases scrapes with
  | mk chosen scraped =>
    have chosen' := chosen
    rw [targets, given] at chosen'
    obtain ⟨-, same⟩ := runs_pure.1 chosen'
    cases same
    exact .mk chosen scraped

/-- A scrape of given targets when all replies are determined. -/
theorem Scrapes.of_play {replies : (r : Request σ) → r.Reply} {xs : List String}
    {run : List (Exchange σ) × Snapshot × Exporter} (dsns : e.dsns = xs)
    (given : e.options.autoDiscoverDatabases = false)
    (played : run = play (fun _ => replies) [] (e.scrape (world address))) :
    Scrapes address e ⟨run.1, xs, run.2.1⟩ run.2.2 := by
  rw [← dsns, played]
  exact Scrapes.of_run given (runs_play _ _ _)

/-- Scrapes one after the other. -/
inductive Rounds (address : Session → σ) (e : Exporter) : List (Cycle σ) → Exporter → Prop
  | start : Rounds address e [] e
  | next {cycles e₁ cycle e'} : Rounds address e cycles e₁ → Scrapes address e₁ cycle e' →
      Rounds address e (cycles ++ [cycle]) e'

/-- Each of the scrapes comes after those before it. -/
theorem Rounds.exists_of_mem {cycles : List (Cycle σ)} {d : Cycle σ} (run : Rounds address e cycles e')
    (member : d ∈ cycles) : ∃ before after e₁ e₂, cycles = before ++ d :: after ∧ Rounds address e before e₁ ∧
      Scrapes address e₁ d e₂ := by
  induction run with
  | start => cases member
  | @next cycles e₁ cycle e' run last ih =>
    obtain earlier | now := List.mem_append.1 member
    · obtain ⟨before, after, e₁, e₂, rfl, first, scrapes⟩ := ih earlier
      exact ⟨before, after ++ [cycle], e₁, e₂, by simp, first, scrapes⟩
    · rw [List.mem_singleton.1 now]
      exact ⟨cycles, [], e₁, e', rfl, run, last⟩

/-- Whatever is exchanged in scrapes one after the other, each of them had its targets. -/
theorem Cycles.rounds {cycles : List (List (Exchange σ) × Snapshot)} (run : Cycles address e cycles e') :
    ∃ rounds, Rounds address e rounds e' ∧ rounds.map (fun d => (d.exchanges, d.snapshot)) = cycles := by
  have extend {e₀ e e' : Exporter} {cycles : List (List (Exchange σ) × Snapshot)} (run : Cycles address e cycles e')
      {before : List (Cycle σ)} (past : Rounds address e₀ before e) :
      ∃ rounds, Rounds address e₀ (before ++ rounds) e' ∧
        rounds.map (fun d => (d.exchanges, d.snapshot)) = cycles := by
    induction run generalizing before with
    | start => exact ⟨[], by rwa [List.append_nil], rfl⟩
    | next first _ ih =>
      obtain ⟨xs, scrapes⟩ := runs_scrape_iff.1 first
      obtain ⟨rounds, later, rfl⟩ := ih (past.next scrapes)
      exact ⟨_ :: rounds, by simpa using later, rfl⟩
  simpa using extend run .start

/-- Choosing the targets renews the registry at most. -/
theorem renews_of_targets {xs : List String} (run : Runs (e.targets (world address)) t (xs, e')) :
    e.registry.Renews e'.registry ∧ e'.plan = e.plan ∧ e'.loader = e.loader ∧ e'.dsns = e.dsns := by
  unfold targets at run
  split at run
  · obtain ⟨_, ⟨found, registry⟩, _, discovered, ended, rfl⟩ := runs_bind.1 run
    obtain ⟨rfl, same⟩ := runs_pure.1 ended
    cases same
    exact ⟨Discovery.renews_of_discover discovered, rfl, rfl, rfl⟩
  · obtain ⟨rfl, same⟩ := runs_pure.1 run
    cases same
    exact ⟨.refl _, rfl, rfl, rfl⟩

/-- No target is chosen twice. -/
theorem nodup_of_targets {xs : List String} (run : Runs (e.targets (world address)) t (xs, e'))
    (distinct : e.dsns.Nodup) : xs.Nodup := by
  unfold targets at run
  split at run
  · obtain ⟨_, ⟨found, registry⟩, _, discovered, ended, rfl⟩ := runs_bind.1 run
    obtain ⟨rfl, same⟩ := runs_pure.1 ended
    cases same
    obtain ⟨_, ⟨all, registry'⟩, _, _, ended', rfl⟩ := runs_bind.1 discovered
    obtain ⟨rfl, same⟩ := runs_pure.1 ended'
    cases same
    exact (Discovery.distinct_nodup [] all).1
  · obtain ⟨rfl, same⟩ := runs_pure.1 run
    cases same
    exact distinct

end Exporter

namespace Registry

/-- The maps that are kept for a connection string, or those to begin with. -/
def state (r : Registry) (x : String) : MapState :=
  ((r.connections.get? x).map (·.state)).getD {}

variable {address : Session → σ} {r r' : Registry} {x : String} {c : Connection} {t : List (Exchange σ)}

theorem state_of_get? (atX : r.connections.get? x = some c) : r.state x = c.state := by
  rw [state, atX]
  rfl

theorem Renews.state (renews : r.Renews r') (y : String) : r'.state y = r.state y ∨ r'.state y = {} := by
  cases atY : r'.connections.get? y with
  | none =>
    right
    rw [Registry.state, atY]
    rfl
  | some c =>
    rw [state_of_get? atY]
    obtain before | ⟨_, _, _, rfl⟩ := renews.connection y c atY
    · exact .inl (state_of_get? before).symm
    · exact .inr rfl

/-- A connection is handed out with the maps that are kept for it. -/
theorem Acquires.state (acquires : Acquires address r x t (.ok c) r') : c.state = r.state x := by
  cases acquires with
  | opened absent _ probes =>
    cases probes
    rw [Registry.state, absent]
    rfl
  | found atX probes =>
    cases probes
    exact (state_of_get? atX).symm

/-- The session at hand for a connection string. -/
def session? (r : Registry) (x : String) : Option Session :=
  (r.connections.get? x).map (·.session)

/-- The maps that are kept for a connection string were built on a session and for a version of its server. -/
def BuiltFor (r : Registry) (x : String) (s : Session) (v : Version) : Prop :=
  r.session? x = some s ∧ (r.state x).version = some v

instance (r : Registry) (x : String) (s : Session) (v : Version) : Decidable (r.BuiltFor x s v) :=
  inferInstanceAs (Decidable (_ ∧ _))

theorem BuiltFor.of_renews {y : String} {s : Session} {v : Version} (built : r'.BuiltFor y s v)
    (renews : r.Renews r') : r.BuiltFor y s v := by
  cases atY : r'.connections.get? y with
  | none => simp [BuiltFor, session?, atY] at built
  | some c =>
    obtain before | ⟨_, _, _, rfl⟩ := renews.connection y c atY
    · simpa [BuiltFor, session?, Registry.state, before, atY] using built
    · simp [BuiltFor, Registry.state, atY] at built

/-- Where maps are kept, it is for the session at hand. -/
theorem Acquires.session?_of_version (acquires : Acquires address r x t (.ok c) r')
    (kept : (r.state x).version ≠ none) : r.session? x = some c.session := by
  cases acquires with
  | opened absent _ _ => exact absurd (by rw [Registry.state, absent]; rfl) kept
  | found atX probes =>
    cases probes
    rw [session?, atX]
    rfl

theorem Acquires.state_of_ne {outcome : Except Failure Connection}
    (acquires : Acquires address r x t outcome r') {y : String} (ne : y ≠ x) : r'.state y = r.state y := by
  rw [Registry.state, acquires.get?_of_ne ne]
  rfl

theorem state_add (r : Registry) (x : String) (c : Connection) (y : String) :
    (r.add x c).state y = if y = x then c.state else r.state y := by
  rw [state, add, Table.get?_insert]
  split <;> rfl

theorem session?_add (r : Registry) (x : String) (c : Connection) (y : String) :
    (r.add x c).session? y = if y = x then some c.session else r.session? y := by
  rw [session?, add, Table.get?_insert]
  split <;> rfl

end Registry

end PgMetrics
