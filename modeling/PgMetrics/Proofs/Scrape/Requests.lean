import PgMetrics.Proofs.Dialogue
import PgMetrics.Scrape.Exporter

namespace PgMetrics

variable {σ α β : Type}

/-- Requests that a scrape makes. -/
def Request.isScraping : Request σ → Bool
  | connect _ | ping _ | query .. | close _ | content _ | log _ | clock => true
  | _ => false

namespace Dialogue

/-- Whatever is replied, a dialogue asks for nothing but what is allowed. -/
def Asks (allowed : Request σ → Bool) (d : Dialogue σ α) : Prop :=
  ∀ t a, Runs d t a → ∀ x ∈ t, allowed x.request = true

variable {allowed : Request σ → Bool}

theorem Asks.pure (a : α) : Asks allowed (pure a : Dialogue σ α) := by
  intro t b run x member
  rw [(runs_pure.1 run).1] at member
  cases member

theorem Asks.request {r : Request σ} (may : allowed r = true) : Asks allowed (request r) := by
  intro t reply run x member
  rw [runs_request.1 run, List.mem_singleton] at member
  rw [member, may]

theorem Asks.bind {d : Dialogue σ α} {f : α → Dialogue σ β} (first : Asks allowed d) (next : ∀ a, Asks allowed (f a)) :
    Asks allowed (d >>= f) := by
  intro t b run x member
  obtain ⟨t₁, a, t₂, run₁, run₂, rfl⟩ := runs_bind.1 run
  obtain inFirst | inNext := List.mem_append.1 member
  · exact first t₁ a run₁ x inFirst
  · exact next a t₂ b run₂ x inNext

variable (address : Session → σ)

theorem Asks.logAll (may : ∀ e, allowed (.log e) = true) (es : List LogEntry) :
    Asks allowed ((world address).logAll es) := by
  intro t u run x member
  rw [runs_logAll.1 run] at member
  obtain ⟨e, _, rfl⟩ := List.mem_map.1 member
  exact may e

end Dialogue

open Dialogue Request

variable (address : Session → σ)

namespace Registry

theorem asks_probe (r : Registry) (dsn : String) (c : Connection) :
    Asks isScraping (r.probe (world address) dsn c) := by
  refine .bind (.request rfl) ?_
  rintro (e | _)
  · exact .bind (.request rfl) fun _ => .bind (.request rfl) fun _ => .pure _
  · exact .pure _

theorem asks_openSession (r : Registry) (dsn : String) : Asks isScraping (r.openSession (world address) dsn) := by
  unfold openSession
  split
  · exact .pure _
  · refine .bind (.request rfl) ?_
    rintro (e | _)
    · exact .pure _
    · exact .pure _

theorem asks_acquire (r : Registry) (dsn : String) : Asks isScraping (r.acquire (world address) dsn) := by
  unfold acquire
  split
  · exact asks_probe address _ _ _
  · refine .bind (asks_openSession address r dsn) ?_
    rintro ⟨e | c, r⟩
    · exact .pure _
    · exact asks_probe address _ _ _

end Registry

namespace Plan

theorem asks_contentOf (loader : Option Loader) : Asks isScraping (contentOf (world address) loader) := by
  cases loader with
  | none => exact .pure _
  | some l =>
    refine .bind (.bind (.request rfl) ?_) fun _ => .pure _
    rintro (e | bytes)
    · exact .bind (.request rfl) fun _ => .pure _
    · exact .pure _

theorem asks_banner (s : Session) : Asks isScraping (Banner.ask (world address) s) := by
  refine .bind (.request rfl) ?_
  rintro (e | a)
  · exact .pure _
  · exact .pure _

theorem asks_refresh (p : Plan) (c : Connection) (loader : Option Loader) :
    Asks isScraping (p.refresh (world address) c loader) := by
  refine .bind (asks_banner address _) ?_
  rintro (e | banner)
  · exact .pure _
  · refine .bind (.logAll address (fun _ => rfl) _) fun _ => ?_
    refine .bind (asks_contentOf address loader) fun _ => ?_
    exact .bind (.logAll address (fun _ => rfl) _) fun _ => .pure _

end Plan

namespace Discovery

theorem asks_list (r : Registry) (base : String) : Asks isScraping (list (world address) r base) := by
  refine .bind (r.asks_acquire address base) ?_
  rintro ⟨e | c, r⟩
  · exact .pure _
  · refine .bind (.request rfl) ?_
    rintro (e | a)
    · exact .pure _
    · exact .pure _

theorem asks_expand (r : Registry) (exclude : List String) (base : String) :
    Asks isScraping (expand (world address) r exclude base) := by
  refine .bind (asks_list address r base) ?_
  rintro ⟨e | names, r⟩
  · exact .bind (.request rfl) fun _ => .pure _
  · exact .bind (.logAll address (fun _ => rfl) _) fun _ => .pure _

theorem asks_expandEach (exclude bases : List String) (r : Registry) :
    Asks isScraping (expandEach (world address) exclude bases r) := by
  induction bases generalizing r with
  | nil => exact .pure _
  | cons base bases ih =>
    exact .bind (asks_expand address r exclude base) fun _ => .bind (ih _) fun _ => .pure _

end Discovery

namespace Exporter

variable (e : Exporter)

theorem asks_targets : Asks isScraping (e.targets (world address)) := by
  unfold targets
  split
  · exact .bind (.bind (Discovery.asks_expandEach address _ _ _) fun _ => .pure _) fun _ => .pure _
  · exact .pure _

theorem asks_scrapeSettings (c : Connection) (r : TargetReport) :
    Asks isScraping (scrapeSettings (world address) c r) := by
  refine .bind (.request rfl) fun _ => .bind (.logAll address (fun _ => rfl) _) fun _ => ?_
  exact .bind (.logAll address (fun _ => rfl) _) fun _ => .pure _

theorem asks_scrapeView (c : Connection) (v : View) (sql : String) (r : TargetReport) :
    Asks isScraping (scrapeView (world address) c v sql r) := by
  refine .bind (.request rfl) fun _ => .bind (.logAll address (fun _ => rfl) _) fun _ => ?_
  exact .bind (.logAll address (fun _ => rfl) _) fun _ => .pure _

theorem asks_scrapeViews (c : Connection) (emitUntyped : Bool) (views : List (String × ViewMap)) (r : TargetReport) :
    Asks isScraping (scrapeViews (world address) c emitUntyped views r) := by
  induction views generalizing r with
  | nil => exact .pure _
  | cons view views ih =>
    unfold scrapeViews
    split
    · exact ih r
    · exact .bind (asks_scrapeView address _ _ _ _) ih

theorem asks_scrapeConnected (c : Connection) (r : TargetReport) :
    Asks isScraping (e.scrapeConnected (world address) c r) := by
  refine .bind (.bind (e.plan.asks_refresh address c e.loader) fun _ => .pure _) fun ⟨outcome, c, e'⟩ => ?_
  refine .bind (.logAll address (fun _ => rfl) _) fun _ => ?_
  dsimp only
  split
  · exact .bind (.pure _) fun r => .bind (asks_scrapeViews address c _ _ r) fun _ => .pure _
  · exact .bind (asks_scrapeSettings address c _) fun r => .bind (asks_scrapeViews address c _ _ r) fun _ => .pure _

theorem asks_scrapeTarget (dsn : String) : Asks isScraping (e.scrapeTarget (world address) dsn) := by
  refine .bind (e.registry.asks_acquire address dsn) ?_
  rintro ⟨f | c, registry⟩
  · exact .bind (.request rfl) fun _ => .pure _
  · exact asks_scrapeConnected address _ _ _

theorem asks_scrapeTargets (dsns : List String) : Asks isScraping (e.scrapeTargets (world address) dsns) := by
  induction dsns generalizing e with
  | nil => exact .pure _
  | cons dsn dsns ih => exact .bind (e.asks_scrapeTarget address dsn) fun _ => .bind (ih _) fun _ => .pure _

/-- A scrape asks nothing but the servers, the document, the log and the clock. -/
theorem asks_scrape : Asks isScraping (e.scrape (world address)) := by
  refine .bind (.request rfl) fun _ => .bind (e.asks_targets address) fun ⟨dsns, e'⟩ => ?_
  exact .bind (e'.asks_scrapeTargets address dsns) fun _ => .bind (.request rfl) fun _ => .pure _

end Exporter

end PgMetrics
