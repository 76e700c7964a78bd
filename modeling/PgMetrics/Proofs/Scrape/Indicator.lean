import Mathlib.Control.Monad.Basic
import Mathlib.Tactic.ByContra
import PgMetrics.Proofs.Scrape.Cycles

namespace PgMetrics

open Dialogue

variable {σ : Type}

/-- How a load of a content goes. -/
def Content.status (path : String) (c : Content) : LoadStatus :=
  ⟨path, c.hashsum?.getD "", (c.document path).toOption.isNone⟩

theorem Content.status_eq_of_hashsum? {contents : List Content} (apart : HashesApart contents) {path : String}
    {a b : Content} (memA : a ∈ contents) (memB : b ∈ contents) (same : a.hashsum? = b.hashsum?) :
    a.status path = b.status path := by
  cases readable : b.hashsum? with
  | none =>
    rw [status, status, same, readable, document_of_unreadable readable,
      document_of_unreadable (same.trans readable)]
  | some hash => rw [apart a memA b memB hash (same.trans readable) readable]

/-- The samples that say how the document fares. -/
def Snapshot.indicators (s : Snapshot) : List Sample :=
  s.operational.filter (·.name == "pg_exporter_user_queries_load_error")

/-- The one sample about the document has the path and the hash sum of a content, and is one if that content does not
describe a document. -/
def Snapshot.Describes (s : Snapshot) (o : Options) (path : String) (c : Content) : Prop :=
  s.indicators.map (fun i => (i.labels, i.value)) =
    [(o.constantLabels.entries ++ [("filename", path), ("hashsum", c.hashsum?.getD "")],
      Sample.flag (c.document path).toOption.isNone)]

namespace Cycle

/-- What the document said when a target was brought up to date for the last time. -/
def lastContent? (past : List (Cycle σ)) (x : String) : Option Content :=
  (past.filter (x ∈ ·.refreshed)).getLast?.bind (·.content?)

theorem lastContent?_append (past : List (Cycle σ)) (d : Cycle σ) (x : String) :
    lastContent? (past ++ [d]) x = if x ∈ d.refreshed then d.content? else lastContent? past x := by
  unfold lastContent?
  rw [List.filter_append]
  split
  · rename_i member
    simp [member]
  · rename_i other
    simp [other]

theorem exists_of_lastContent? {past : List (Cycle σ)} {x : String} {c : Content}
    (seen : lastContent? past x = some c) : ∃ d ∈ past, x ∈ d.refreshed ∧ d.content? = some c := by
  obtain ⟨d, last, content⟩ := Option.bind_eq_some_iff.1 seen
  have member := List.mem_of_getLast? last
  rw [List.mem_filter] at member
  exact ⟨d, member.1, by simpa using member.2, content⟩

end Cycle

namespace Plan

/-- Either the maps were built for the version and the hash sum, and all stays as it is, or the content is loaded. -/
theorem advance_cases {p : Plan} {state state' : MapState} {l : Loader} {l' : Option Loader} {v : Version}
    {c : Content} (advanced : p.advance state (some l) v (some c) = (state', l')) :
    state'.version = some v ∧ state'.documentHash = c.hashsum? ∧
      (l' = some l ∧ state.version = some v ∧ state.documentHash = c.hashsum? ∨ l' = some (l.load c)) := by
  unfold advance at advanced
  dsimp only at advanced
  split at advanced
  case isTrue =>
    cases advanced
    exact ⟨rfl, rfl, .inr rfl⟩
  case isFalse current =>
    cases advanced
    simp only [MapState.isStale, Bool.or_eq_true, bne_iff_ne, not_or, ne_eq, Decidable.not_not,
      Option.bind_some] at current
    exact ⟨current.1, current.2, .inl ⟨rfl, current⟩⟩

end Plan

namespace Exporter

variable {address : Session → σ} {e e' : Exporter} {x : String} {t : List (Exchange σ)} {r : TargetReport}

/-- A pass refreshes the maps of its target or leaves all maps and the loader as they were. -/
theorem Passes.refreshed_cases (passes : Passes address e x t r e') (keyed : e.registry.Keyed) :
    e'.registry.Keyed ∧ (∀ y, y ≠ x → e'.registry.state y = e.registry.state y) ∧
      (r.isRefreshed = false ∧ e'.loader = e.loader ∧
          (e'.registry.state x = e.registry.state x ∨ e'.registry.state x = {}) ∨
        r.isRefreshed = true ∧ ∃ v content, content.isSome = e.loader.isSome ∧
          (∀ c, content = some c → c ∈ t.filterMap Exchange.content?) ∧
          e.plan.advance (e.registry.state x) e.loader v content = (e'.registry.state x, e'.loader)) := by
  cases passes with
  | unconnected acquires =>
    refine ⟨acquires.keyed keyed, fun y ne => acquires.state_of_ne ne, .inl ⟨rfl, rfl, .inr ?_⟩⟩
    rw [Registry.state, acquires.get?_of_error]
    rfl
  | @connected t₁ t₂ c registry outcome state loader parts acquires refreshes =>
    have keyed₁ := acquires.keyed keyed
    obtain ⟨atX, _⟩ := acquires.get?_of_ok
    have own : c.target.dsn = x := keyed₁ x c atX
    have kept : (registry.add c.target.dsn { c with state }).state x = state := by
      rw [Registry.state_add, if_pos own.symm]
    refine ⟨keyed₁.add rfl, ?_, ?_⟩
    · intro y ne
      rw [Registry.state_add, if_neg (own ▸ ne), acquires.state_of_ne ne]
    · rw [kept, ← acquires.state]
      cases refreshes with
      | failed => exact .inl ⟨rfl, rfl, .inl rfl⟩
      | @done reply banner t₃ content _ _ _ reads advanced =>
        refine .inr ⟨rfl, banner.version, content, reads.content?_eq.2, ?_, advanced⟩
        rintro c rfl
        obtain ⟨y, member, said⟩ := List.exists_of_findSome?_eq_some reads.content?_eq.1
        refine List.mem_filterMap.2 ⟨y, ?_, said⟩
        simp [member]

/-- A pass that finds the maps built for a version and leaves them so does not go on to another session. -/
theorem Passes.builtFor_of_version (passes : Passes address e x t r e') (keyed : e.registry.Keyed) {y : String}
    {s : Session} {v : Version} (built : e'.registry.BuiltFor y s v) (before : (e.registry.state y).version = some v) :
    e.registry.BuiltFor y s v := by
  refine ⟨?_, before⟩
  obtain ⟨session, version⟩ := built
  have kept : (e.registry.state y).version ≠ none := by simp [before]
  cases passes with
  | @unconnected t f registry acquires =>
    by_cases atX : y = x
    · subst atX
      rw [Registry.state, acquires.get?_of_error] at version
      cases version
    · rwa [Registry.session?, acquires.get?_of_ne atX] at session
  | @connected t₁ t₂ c registry outcome state loader parts acquires refreshes =>
    have own : c.target.dsn = x := acquires.keyed keyed x c acquires.get?_of_ok.1
    rw [own, Registry.session?_add] at session
    by_cases atX : y = x
    · subst atX
      rw [if_pos rfl] at session
      exact (acquires.session?_of_version kept).trans session
    · rwa [if_neg atX, Registry.session?, acquires.get?_of_ne atX] at session

/-- In the middle of a cycle in which the document has a content, `ys` having been refreshed: what was last seen for
them is that content, and for all others what had been seen before the cycle. Maps that were not there before the
cycle are there because the content was loaded. -/
structure Midway (path : String) (past : List (Cycle σ)) (c : Content) (before : Exporter) (ys : List String)
    (e : Exporter) : Prop where
  file : e.loader.map (·.path) = some path
  keyed : e.registry.Keyed
  seen : ∀ y ∈ ys, (e.registry.state y).version ≠ none → (e.registry.state y).documentHash = c.hashsum?
  unseen : ∀ y, y ∉ ys → (e.registry.state y).version ≠ none →
    ∃ d, Cycle.lastContent? past y = some d ∧ (e.registry.state y).documentHash = d.hashsum?
  status : e.documentStatus = before.documentStatus ∨ ys ≠ [] ∧ e.documentStatus = some (c.status path)
  kept : ∀ y s v, e.registry.BuiltFor y s v → before.registry.BuiltFor y s v ∨ e.documentStatus = some (c.status path)
  loaded : ∀ y ∈ ys, (∀ d, Cycle.lastContent? past y = some d → d.hashsum? ≠ c.hashsum?) →
    e.documentStatus = some (c.status path)

/-- A pass without a refresh loads nothing, and at most the maps of its target are lost. -/
theorem Midway.idle {path : String} {past : List (Cycle σ)} {c : Content} {before : Exporter} {ys : List String}
    (midway : Midway path past c before ys e) (passes : Passes address e x t r e') (keyed : e'.registry.Keyed)
    (loader : e'.loader = e.loader)
    (states : ∀ y, (e'.registry.state y).version ≠ none → e'.registry.state y = e.registry.state y) :
    Midway path past c before ys e' := by
  have status : e'.documentStatus = e.documentStatus := by rw [documentStatus, loader]; rfl
  refine ⟨loader ▸ midway.file, keyed, ?_, ?_, status ▸ midway.status, ?_, status ▸ midway.loaded⟩
  · intro y member known
    have same := states y known
    rw [same] at known ⊢
    exact midway.seen y member known
  · intro y other known
    have same := states y known
    rw [same] at known ⊢
    exact midway.unseen y other known
  · intro y s v built
    rw [status]
    have same := states y (by simp [built.2])
    exact midway.kept y s v (passes.builtFor_of_version midway.keyed built (same ▸ built.2))

/-- A pass with a refresh loads the content, or its target had maps for the same version and content. -/
theorem Midway.refresh {path : String} {past : List (Cycle σ)} {c : Content} {before : Exporter} {ys : List String}
    (midway : Midway path past c before ys e) (passes : Passes address e x t r e') (keyed : e'.registry.Keyed)
    (others : ∀ y, y ≠ x → e'.registry.state y = e.registry.state y) {v : Version}
    (advanced : e.plan.advance (e.registry.state x) e.loader v (some c) = (e'.registry.state x, e'.loader)) :
    Midway path past c before (ys ++ [x]) e' := by
  obtain ⟨l, atL, rfl⟩ := Option.map_eq_some_iff.1 midway.file
  rw [atL] at advanced
  obtain ⟨version, hash, cases_⟩ := Plan.advance_cases advanced
  have status : e'.documentStatus = e.documentStatus ∧ (e.registry.state x).version = some v ∧
      (e.registry.state x).documentHash = c.hashsum? ∨ e'.documentStatus = some (c.status l.path) := by
    rw [documentStatus, documentStatus, atL]
    obtain ⟨kept, current⟩ | load := cases_
    · exact .inl ⟨by rw [kept], current⟩
    · exact .inr (by rw [load]; rfl)
  have file : e'.loader.map (·.path) = some l.path := by
    obtain ⟨kept, _⟩ | load := cases_
    · rw [kept]; rfl
    · rw [load]; rfl
  refine ⟨file, keyed, ?_, ?_, ?_, ?_, ?_⟩
  · intro y member known
    by_cases atX : y = x
    · subst atX
      exact hash
    · rw [others y atX] at known ⊢
      exact midway.seen y (by simpa [atX] using member) known
  · intro y other known
    have atX : y ≠ x := fun same => other (by simp [same])
    rw [others y atX] at known ⊢
    exact midway.unseen y (fun member => other (List.mem_append_left _ member)) known
  · obtain ⟨same, _⟩ | said := status
    · rw [same]
      exact midway.status.imp_right fun said => ⟨by simp, said.2⟩
    · exact .inr ⟨by simp, said⟩
  · intro y s w built
    obtain ⟨same, known, _⟩ | said := status
    · have unchanged : (e.registry.state y).version = some w := by
        by_cases atX : y = x
        · subst atX
          rw [known, ← version, built.2]
        · rw [← others y atX, built.2]
      rw [same]
      exact midway.kept y s w (passes.builtFor_of_version midway.keyed built unchanged)
    · exact .inr said
  · intro y member new
    obtain ⟨same, known, equal⟩ | said := status
    · rw [same]
      by_cases already : y ∈ ys
      · exact midway.loaded y already new
      · obtain rfl : y = x := by simpa [already] using member
        obtain ⟨d, last, hashD⟩ := midway.unseen y already (by simp [known])
        exact absurd (hashD.symm.trans equal) (new d last)
    · exact said

/-- The targets among some that were refreshed. -/
def refreshedOf (x : String) (r : TargetReport) : List String :=
  if r.isRefreshed then [x] else []

theorem Midway.pass {path : String} {past : List (Cycle σ)} {c : Content} {before : Exporter}
    {ys : List String} (midway : Midway path past c before ys e) (passes : Passes address e x t r e')
    (steady : ∀ a ∈ t.filterMap Exchange.content?, a = c) :
    Midway path past c before (ys ++ refreshedOf x r) e' ∧
      (refreshedOf x r ≠ [] → c ∈ t.filterMap Exchange.content?) := by
  obtain ⟨keyed, others, ⟨failed, loader, same⟩ | ⟨done, v, content, read, memT, advanced⟩⟩ :=
    passes.refreshed_cases midway.keyed
  · have states (y : String) (known : (e'.registry.state y).version ≠ none) :
        e'.registry.state y = e.registry.state y := by
      by_cases atX : y = x
      · subst atX
        exact same.resolve_right fun lost => known (by rw [lost])
      · exact others y atX
    rw [refreshedOf, failed, if_neg (by decide), List.append_nil]
    exact ⟨midway.idle passes keyed loader states, absurd rfl⟩
  · obtain ⟨l, atL, -⟩ := Option.map_eq_some_iff.1 midway.file
    rw [atL] at read
    obtain ⟨c', rfl⟩ := Option.isSome_iff_exists.1 read
    obtain rfl := steady c' (memT c' rfl)
    rw [refreshedOf, done, if_pos rfl]
    exact ⟨midway.refresh passes keyed others advanced, fun _ => memT c' rfl⟩

/-- All targets of a cycle, one after the other. -/
theorem Midway.passes {path : String} {past : List (Cycle σ)} {c : Content} {before : Exporter}
    {ys xs : List String} {rs : List TargetReport} (midway : Midway path past c before ys e)
    (run : Runs (e.scrapeTargets (world address) xs) t (rs, e'))
    (steady : ∀ a ∈ t.filterMap Exchange.content?, a = c) :
    Midway path past c before (ys ++ ((xs.zip rs).filter (·.2.isRefreshed)).map (·.1)) e' ∧
      (((xs.zip rs).filter (·.2.isRefreshed)).map (·.1) ≠ [] → c ∈ t.filterMap Exchange.content?) := by
  induction xs generalizing e ys t rs with
  | nil =>
    obtain ⟨-, same⟩ := runs_pure.1 run
    cases same
    exact ⟨by simpa using midway, absurd rfl⟩
  | cons x xs ih =>
    obtain ⟨t₁, r, e₁, t₂, rs', passes, others, rfl, rfl⟩ := runs_scrapeTargets_cons run
    rw [List.filterMap_append] at steady ⊢
    obtain ⟨first, read⟩ := midway.pass passes fun a member => steady a (List.mem_append_left _ member)
    obtain ⟨all, read'⟩ := ih first others fun a member => steady a (List.mem_append_right _ member)
    rw [List.zip_cons_cons, List.filter_cons]
    unfold refreshedOf at read all
    cases done : r.isRefreshed with
    | false =>
      rw [done] at all
      exact ⟨by simpa using all, fun some_ => List.mem_append_right _ (read' some_)⟩
    | true =>
      rw [done] at all read
      exact ⟨by simpa using all, fun _ => List.mem_append_left _ (read (by simp))⟩

/-- What an exporter has of the cycles before. -/
structure Remembers (o : Options) (path : String) (past : List (Cycle σ)) (e : Exporter) : Prop where
  options : e.options = o
  file : e.loader.map (·.path) = some path
  keyed : e.registry.Keyed
  seen : ∀ y, (e.registry.state y).version ≠ none →
    ∃ d, Cycle.lastContent? past y = some d ∧ (e.registry.state y).documentHash = d.hashsum?
  described : ∀ s, e.documentStatus = some s → ∃ d ∈ past, ∃ c, d.content? = some c ∧ s = c.status path
  silent : e.documentStatus = none → ∀ d ∈ past, d.refreshed = []
  shown : ∀ before d, past = before ++ [d] →
    d.snapshot.indicators = (e.documentStatus.map e.documentSample).toList

theorem remembers_of {catalog : Catalog} {options : Options} {dsns : List String} {path : String}
    (document : options.extensionPath = some path) :
    Remembers options path ([] : List (Cycle σ)) (Exporter.of catalog options dsns) := by
  have loader : (Exporter.of catalog options dsns).loader = some { path } := by
    rw [Exporter.of, document]
    rfl
  have status : (Exporter.of catalog options dsns).documentStatus = none := by
    rw [documentStatus, loader]
    rfl
  refine ⟨rfl, by rw [loader]; rfl, Registry.keyed_new _, ?_, ?_, ?_, ?_⟩
  · intro y known
    exact absurd rfl known
  · intro s said
    rw [status] at said
    cases said
  · intro _ d member
    cases member
  · intro before d none
    simp at none

theorem indicators_operational (e : Exporter) (rs : List TargetReport) (seconds : Float) :
    Snapshot.indicators ⟨rs, e.operational rs seconds⟩ = (e.documentStatus.map e.documentSample).toList := by
  unfold Snapshot.indicators operational
  cases e.documentStatus <;> rfl

variable {o : Options} {path : String} {past : List (Cycle σ)} {cycle : Cycle σ}

/-- A cycle, target after target, with the content that the document has in it. -/
theorem Remembers.midway (remembers : Remembers o path past e) (scrapes : Scrapes address e cycle e')
    (steady : cycle.Steady) : ∃ c, (cycle.refreshed ≠ [] → cycle.content? = some c) ∧
      Midway path past c e cycle.refreshed e' ∧ e'.options = o ∧
      cycle.snapshot.indicators = (e'.documentStatus.map e'.documentSample).toList := by
  obtain ⟨c, first, only⟩ : ∃ c, (cycle.contents ≠ [] → cycle.content? = some c) ∧ ∀ a ∈ cycle.contents, a = c := by
    cases read : cycle.contents with
    | nil => exact ⟨.error .notFound, absurd rfl, by simp⟩
    | cons c cs =>
      refine ⟨c, fun _ => by rw [Cycle.content?, read]; rfl, fun a member => ?_⟩
      exact steady a (read ▸ member) c (read ▸ List.mem_cons_self ..)
  refine ⟨c, ?_⟩
  cases scrapes with
  | @mk start finish t₁ t₂ xs rs e₁ e₂ chosen scraped =>
    obtain ⟨renews, plan, loader, -⟩ := renews_of_targets chosen
    have status : e₁.documentStatus = e.documentStatus := by rw [documentStatus, loader]; rfl
    have begun : Midway path past c e [] e₁ := by
      refine ⟨loader ▸ remembers.file, remembers.keyed.of_renews renews, by simp, ?_, .inl status,
        fun y s v built => .inl (built.of_renews renews), by simp⟩
      · intro y _ known
        obtain same | lost := renews.state y
        · rw [same] at known ⊢
          exact remembers.seen y known
        · exact absurd (by rw [lost]) known
    have inside : ∀ a ∈ t₂.filterMap Exchange.content?, a ∈ Cycle.contents
        ⟨⟨.clock, start⟩ :: (t₁ ++ (t₂ ++ [⟨.clock, finish⟩])), xs,
          ⟨rs, (e₂.count rs).operational rs (finish - start)⟩⟩ := by
      intro a member
      rw [Cycle.contents, List.filterMap_cons_none rfl, List.filterMap_append, List.filterMap_append]
      exact List.mem_append_right _ (List.mem_append_left _ member)
    obtain ⟨ended, read⟩ := begun.passes scraped fun a member => only a (inside a member)
    obtain ⟨-, plan', -⟩ := scrapeTargets_target scraped
    refine ⟨fun some_ => first (List.ne_nil_of_mem (inside c (read some_))), ?_, ?_, indicators_operational _ _ _⟩
    · exact ⟨ended.file, ended.keyed, ended.seen, ended.unseen, ended.status, ended.kept, ended.loaded⟩
    · rw [← remembers.options]
      change e₂.plan.options = e.plan.options
      rw [plan', plan]

theorem Remembers.append (remembers : Remembers o path past e) (scrapes : Scrapes address e cycle e')
    (steady : cycle.Steady) : Remembers o path (past ++ [cycle]) e' := by
  obtain ⟨c, read, midway, options, shown⟩ := remembers.midway scrapes steady
  refine ⟨options, midway.file, midway.keyed, ?_, ?_, ?_, ?_⟩
  · intro y known
    rw [Cycle.lastContent?_append]
    split
    · rename_i member
      exact ⟨c, read (List.ne_nil_of_mem member), midway.seen y member known⟩
    · rename_i other
      exact midway.unseen y other known
  · intro s said
    obtain same | ⟨some_, load⟩ := midway.status
    · obtain ⟨d, member, described⟩ := remembers.described s (same ▸ said)
      exact ⟨d, List.mem_append_left _ member, described⟩
    · rw [load] at said
      exact ⟨cycle, by simp, c, read some_, (Option.some.inj said).symm⟩
  · intro none
    have before : e.documentStatus = Option.none := by
      obtain same | ⟨_, load⟩ := midway.status
      · exact same ▸ none
      · rw [load] at none
        cases none
    have quiet := remembers.silent before
    intro d member
    obtain earlier | now := List.mem_append.1 member
    · exact quiet d earlier
    · rw [List.mem_singleton.1 now]
      refine List.eq_nil_iff_forall_not_mem.2 fun y inCycle => ?_
      -- A target that was never refreshed before has its document loaded.
      have load := midway.loaded y inCycle fun d last => by
        obtain ⟨d', member', inD, _⟩ := Cycle.exists_of_lastContent? last
        rw [quiet d' member'] at inD
        cases inD
      rw [load] at none
      cases none
  · intro before d last
    obtain ⟨-, same⟩ := List.append_inj' last rfl
    cases same
    exact shown

theorem Rounds.remembers {catalog : Catalog} {dsns : List String} {cycles : List (Cycle σ)}
    (document : o.extensionPath = some path) (run : Rounds address (Exporter.of catalog o dsns) cycles e)
    (steady : ∀ d ∈ cycles, d.Steady) : Remembers o path cycles e := by
  induction run with
  | start => exact remembers_of document
  | next _ last ih =>
    exact (ih fun d member => steady d (List.mem_append_left _ member)).append last (steady _ (by simp))

/-- With a target that has missed no cycle in which any was refreshed, the last load was of what it has seen last. -/
theorem Rounds.status_eq {catalog : Catalog} {dsns : List String} {cycles : List (Cycle σ)}
    (document : o.extensionPath = some path) (run : Rounds address (Exporter.of catalog o dsns) cycles e)
    (steady : ∀ d ∈ cycles, d.Steady) (apart : HashesApart (cycles.flatMap (·.contents)))
    (always : ∀ d ∈ cycles, d.refreshed ≠ [] → x ∈ d.refreshed) {c : Content}
    (last : Cycle.lastContent? cycles x = some c) : e.documentStatus = some (c.status path) := by
  induction run generalizing c with
  | start => cases last
  | @next cycles e cycle e' run scrapes ih =>
    have steadyBefore : ∀ d ∈ cycles, d.Steady := fun d member => steady d (List.mem_append_left _ member)
    obtain ⟨c', read, midway, -, -⟩ :=
      (run.remembers document steadyBefore).midway scrapes (steady cycle (by simp))
    rw [List.flatMap_append] at apart
    have before {d : Content} := @ih steadyBefore apart.of_append
      (fun d member => always d (List.mem_append_left _ member)) d
    rw [Cycle.lastContent?_append] at last
    by_cases inCycle : x ∈ cycle.refreshed
    · rw [if_pos inCycle, read (List.ne_nil_of_mem inCycle)] at last
      cases last
      by_cases new : ∀ d, Cycle.lastContent? cycles x = some d → d.hashsum? ≠ c.hashsum?
      · exact midway.loaded x inCycle new
      · -- What the target has seen before has the same hash sum, so that its load went the same way.
        simp only [Classical.not_forall, ne_eq, Decidable.not_not] at new
        obtain ⟨d, seen, same⟩ := new
        obtain kept | ⟨-, load⟩ := midway.status
        · obtain ⟨cycle', member, _, content⟩ := Cycle.exists_of_lastContent? seen
          rw [kept, before seen]
          refine congrArg some (Content.status_eq_of_hashsum? apart ?_ ?_ same)
          · exact List.mem_append_left _ (List.mem_flatMap.2 ⟨cycle', member, List.mem_of_mem_head? content⟩)
          · have content' := read (List.ne_nil_of_mem inCycle)
            exact List.mem_append_right _ (by simpa using List.mem_of_mem_head? content')
        · exact load
    · rw [if_neg inCycle] at last
      have none : cycle.refreshed = [] := by
        by_contra some_
        exact inCycle (always cycle (by simp) some_)
      obtain kept | ⟨some_, -⟩ := midway.status
      · rw [kept, before last]
      · exact absurd none some_

theorem describes_of_status {s : Snapshot} {c : Content} (options : e.options = o)
    (shown : s.indicators = (e.documentStatus.map e.documentSample).toList)
    (status : e.documentStatus = some (c.status path)) : s.Describes o path c := by
  rw [Snapshot.Describes, shown, status, ← options]
  simp [documentSample, ownSample, Sample.withLabel, Sample.of, Content.status]

/-- In a cycle in which a target is refreshed, the exporter describes one content that the document had by then. It is
the present one or the one that was described a cycle before; it is the present one if one of the targets refreshed
has not seen it when it was refreshed before, if the maps of one are for another version or on another session than
before the cycle, and if one of them has missed no cycle in which any was refreshed. -/
theorem indicator_describes_latest_load {catalog : Catalog} {dsns : List String} {cycles : List (Cycle σ)}
    (document : o.extensionPath = some path) (run : Rounds address (Exporter.of catalog o dsns) cycles e)
    (last : Scrapes address e cycle e') (steady : ∀ d ∈ cycles ++ [cycle], d.Steady)
    (some_ : cycle.refreshed ≠ []) :
    ∃ c, cycle.content? = some c ∧
      (∃ d ∈ cycles ++ [cycle], ∃ c', d.content? = some c' ∧ cycle.snapshot.Describes o path c') ∧
      (cycle.snapshot.Describes o path c ∨
        ∃ before d, cycles = before ++ [d] ∧ cycle.snapshot.indicators = d.snapshot.indicators) ∧
      (∀ x ∈ cycle.refreshed, (∀ d, Cycle.lastContent? cycles x = some d → d.hashsum? ≠ c.hashsum?) →
        cycle.snapshot.Describes o path c) ∧
      (∀ x s v, e'.registry.BuiltFor x s v → ¬ e.registry.BuiltFor x s v → cycle.snapshot.Describes o path c) ∧
      (HashesApart ((cycles ++ [cycle]).flatMap (·.contents)) →
        (∃ x, ∀ d ∈ cycles ++ [cycle], d.refreshed ≠ [] → x ∈ d.refreshed) →
        cycle.snapshot.Describes o path c) := by
  have remembers := run.remembers document fun d member => steady d (List.mem_append_left _ member)
  have after := remembers.append last (steady cycle (by simp))
  obtain ⟨c, read, midway, options, shown⟩ := remembers.midway last (steady cycle (by simp))
  have describes {c' : Content} (status : e'.documentStatus = some (c'.status path)) :
      cycle.snapshot.Describes o path c' := describes_of_status options shown status
  obtain ⟨status, said⟩ : ∃ status, e'.documentStatus = some status := by
    refine Option.ne_none_iff_exists'.1 fun none => some_ ?_
    exact after.silent none cycle (by simp)
  refine ⟨c, read some_, ?_, ?_, ?_, ?_, ?_⟩
  · obtain ⟨d, member, c', content, rfl⟩ := after.described status said
    exact ⟨d, member, c', content, describes said⟩
  · obtain kept | ⟨-, load⟩ := midway.status
    · right
      rcases cycles.eq_nil_or_concat with rfl | ⟨before, d, rfl⟩
      · obtain ⟨_, member, _⟩ := remembers.described status (kept ▸ said)
        cases member
      · refine ⟨before, d, List.concat_eq_append, ?_⟩
        rw [shown, remembers.shown before d List.concat_eq_append, kept]
        have plan : e'.options = e.options := options.trans remembers.options.symm
        have sample : e'.documentSample = e.documentSample := by
          funext s
          simp only [documentSample, ownSample, plan]
        rw [sample]
    · exact .inl (describes load)
  · intro x member new
    exact describes (midway.loaded x member new)
  · intro x s v built new
    exact describes ((midway.kept x s v built).resolve_left new)
  · rintro apart ⟨x, always⟩
    refine describes (Rounds.status_eq document (run.next last) steady apart always ?_)
    rw [Cycle.lastContent?_append, if_pos (always cycle (by simp) some_), read some_]

/-- Two targets find no document at first. The next time only the second one is refreshed and finds one, and the third
time it finds nothing new in it, but its server has been upgraded. -/
theorem indicator_after_upgrade :
    let o : Options := { disableSettingsMetrics := true, extensionPath := some "q.yaml" }
    let document : Content := .ok "pg_x:\n  query: SELECT 1\n".toUTF8
    let banner (n : Nat) := if n = 2 then "PostgreSQL 11.2" else "PostgreSQL 10.1"
    let replies (n : Nat) := Request.replyOf (fun _ => .ok ())
      (fun x _ => if n ≠ 0 ∧ x = "host=a" then .error (.of (.database .unreachable))
        else .ok ⟨["version"], [[.text (banner n)]]⟩)
      (if n = 0 then .error .notFound else document)
    let run (n : Nat) (e : Exporter) := play (fun _ => replies n) [] (e.scrape (world Session.dsn))
    let e := Exporter.of {} o ["host=a", "host=b"]
    let first := run 0 e
    let second := run 1 first.2.2
    let third := run 2 second.2.2
    let cycle (run : List (Exchange String) × Snapshot × Exporter) : Cycle String :=
      ⟨run.1, ["host=a", "host=b"], run.2.1⟩
    (cycle first).refreshed = ["host=a", "host=b"] ∧
      (cycle second).refreshed = ["host=b"] ∧ (cycle second).snapshot.Describes o "q.yaml" document ∧
      (cycle third).refreshed = ["host=b"] ∧ (cycle third).snapshot.Describes o "q.yaml" document := by
  intro o document banner replies run e first second third cycle
  have scrapes₁ : Scrapes Session.dsn e (cycle first) first.2.2 := .of_play rfl rfl rfl
  have scrapes₂ : Scrapes Session.dsn first.2.2 (cycle second) second.2.2 :=
    .of_play (by decide +kernel) (by decide +kernel) rfl
  have scrapes₃ : Scrapes Session.dsn second.2.2 (cycle third) third.2.2 :=
    .of_play (by decide +kernel) (by decide +kernel) rfl
  have rounds₁ : Rounds Session.dsn e [cycle first] first.2.2 := .next .start scrapes₁
  have rounds₂ : Rounds Session.dsn e [cycle first, cycle second] second.2.2 := .next rounds₁ scrapes₂
  have contents₁ : (cycle first).contents = [.error .notFound, .error .notFound] := by decide +kernel
  have contents₂ : (cycle second).contents = [document] := by decide +kernel
  have contents₃ : (cycle third).contents = [document] := by decide +kernel
  have refreshed₁ : (cycle first).refreshed = ["host=a", "host=b"] := by decide +kernel
  have refreshed₂ : (cycle second).refreshed = ["host=b"] := by decide +kernel
  have refreshed₃ : (cycle third).refreshed = ["host=b"] := by decide +kernel
  have steady₁ : (cycle first).Steady := Cycle.steady_of_contents (.error .notFound) (by simp [contents₁])
  have steady₂ : (cycle second).Steady := Cycle.steady_of_contents document (by simp [contents₂])
  have steady₃ : (cycle third).Steady := Cycle.steady_of_contents document (by simp [contents₃])
  refine ⟨refreshed₁, refreshed₂, ?_, refreshed₃, ?_⟩
  · obtain ⟨c, content, _, _, unseen, _⟩ :=
      indicator_describes_latest_load rfl rounds₁ scrapes₂ (by simp [steady₁, steady₂]) (by simp [refreshed₂])
    rw [Cycle.content?, contents₂] at content
    cases content
    refine unseen "host=b" (by simp [refreshed₂]) fun d seen => ?_
    have last : Cycle.lastContent? [cycle first] "host=b" = some (.error .notFound) := by decide +kernel
    rw [last] at seen
    cases seen
    decide +kernel
  · obtain ⟨c, content, _, _, _, rebuilt, _⟩ := indicator_describes_latest_load rfl rounds₂ scrapes₃
      (by simp [steady₁, steady₂, steady₃]) (by simp [refreshed₃])
    rw [Cycle.content?, contents₃] at content
    cases content
    obtain ⟨s, session⟩ : ∃ s, third.2.2.registry.session? "host=b" = some s :=
      Option.isSome_iff_exists.1 (by decide +kernel)
    have before : (second.2.2.registry.state "host=b").version ≠ some (.release 11 2 0) := by decide +kernel
    exact rebuilt "host=b" s (.release 11 2 0) ⟨session, by decide +kernel⟩ fun built => before built.2

/-- The first target finds no document, the second one alone the next time finds one, and when it is gone the first
target has nothing new to see in that: the exporter goes on describing the document. -/
theorem indicator_describes_lost_document :
    let o : Options := { disableSettingsMetrics := true, extensionPath := some "q.yaml" }
    let lost (α : Type) : Except Failure α := .error (.of (.database .unreachable))
    let content (n : Nat) : Content := if n = 1 then .ok "pg_x:\n  query: SELECT 1\n".toUTF8 else .error .notFound
    let replies (n : Nat) := Request.replyOf (fun x => if n = 0 ∧ x = "host=b" then lost Unit else .ok ())
      (fun x _ => if n = 1 ∧ x = "host=a" ∨ n = 2 ∧ x = "host=b" then lost Answer
        else .ok ⟨["version"], [[.text "PostgreSQL 10.1"]]⟩) (content n)
    let run (n : Nat) (e : Exporter) := play (fun _ => replies n) [] (e.scrape (world Session.dsn))
    let e := Exporter.of {} o ["host=a", "host=b"]
    let first := run 0 e
    let second := run 1 first.2.2
    let third := run 2 second.2.2
    let cycle (run : List (Exchange String) × Snapshot × Exporter) : Cycle String :=
      ⟨run.1, ["host=a", "host=b"], run.2.1⟩
    Rounds Session.dsn e [cycle first, cycle second] second.2.2 ∧
      Scrapes Session.dsn second.2.2 (cycle third) third.2.2 ∧
      (∀ d ∈ [cycle first, cycle second, cycle third], d.Steady) ∧ (cycle third).refreshed = ["host=a"] ∧
      (cycle third).content? = some (.error .notFound) ∧
      ¬(cycle third).snapshot.Describes o "q.yaml" (.error .notFound) := by
  intro o lost content replies run e first second third cycle
  have plays (n : Nat) (e : Exporter) (dsns : e.dsns = ["host=a", "host=b"])
      (given : e.options.autoDiscoverDatabases = false) : Scrapes Session.dsn e (cycle (run n e)) (run n e).2.2 := by
    have scrapes := Scrapes.of_run given (runs_play (fun _ => replies n) [] (e.scrape (world Session.dsn)))
    rw [dsns] at scrapes
    exact scrapes
  have scrapes₁ := plays 0 e rfl rfl
  have scrapes₂ := plays 1 first.2.2 (by decide +kernel) (by decide +kernel)
  have scrapes₃ := plays 2 second.2.2 (by decide +kernel) (by decide +kernel)
  have other : (cycle third).snapshot.indicators.map (·.labels.lookup "hashsum") ≠ [some ""] := by decide +kernel
  refine ⟨(Rounds.start.next scrapes₁).next scrapes₂, scrapes₃, ?_, by decide +kernel, by decide +kernel, ?_⟩
  · intro d member
    simp only [List.mem_cons, List.not_mem_nil, or_false] at member
    rcases member with rfl | rfl | rfl
    · exact Cycle.steady_of_contents (content 0) (by decide +kernel)
    · exact Cycle.steady_of_contents (content 1) (by decide +kernel)
    · exact Cycle.steady_of_contents (content 2) (by decide +kernel)
  · intro describes
    have said := congrArg (List.map fun i => i.1.lookup "hashsum") describes
    rw [List.map_map] at said
    exact other said

end Exporter

end PgMetrics
