import PgMetrics.Proofs.Replies
import PgMetrics.Proofs.Scrape.TextBytes
import PgMetrics.Scrape.Exporter

namespace PgMetrics

variable {σ α β : Type}

/-- Exchanges of one request, whose replies are the same but for answers that are alike. -/
inductive Exchange.Alike : Exchange σ → Exchange σ → Prop
  | same (x) : Alike x x
  | answers {s sql a a'} : a.Alike a' → Alike ⟨.query s sql, .ok a⟩ ⟨.query s sql, .ok a'⟩

theorem Exchange.Alike.symm {x x' : Exchange σ} (alike : Alike x x') : Alike x' x := by
  cases alike with
  | same => exact .same x
  | answers alike => exact .answers alike.symm

namespace Dialogue

/-- Whatever run there is, there is the same run along any record that is alike. -/
def Blind (d : Dialogue σ α) : Prop :=
  ∀ ⦃t t' a⦄, List.Forall₂ Exchange.Alike t' t → Runs d t a → Runs d t' a

theorem Blind.runs_iff {d : Dialogue σ α} (blind : d.Blind) {t t' : List (Exchange σ)} {a : α}
    (alike : List.Forall₂ Exchange.Alike t t') : Runs d t a ↔ Runs d t' a :=
  ⟨fun run => blind (alike.flip.imp fun _ _ pair => pair.symm) run, fun run => blind alike run⟩

/-- Surroundings that reply alike bring about alike exchanges and the same end. -/
theorem Blind.outcome_eq {d : Dialogue σ α} (blind : d.Blind) {replies replies' : (r : Request σ) → r.Reply}
    (alike : ∀ r, Exchange.Alike ⟨r, replies r⟩ ⟨r, replies' r⟩) :
    List.Forall₂ Exchange.Alike (exchanges replies d) (exchanges replies' d) ∧
      outcome replies d = outcome replies' d := by
  obtain ⟨run, told⟩ := (runs_iff_of_replies replies (d := d)).2 ⟨rfl, rfl⟩
  let retold (x : Exchange σ) : Exchange σ := ⟨x.request, replies' x.request⟩
  have pairs : List.Forall₂ Exchange.Alike (exchanges replies d) ((exchanges replies d).map retold) := by
    rw [List.forall₂_map_right_iff, List.forall₂_same]
    intro x member
    obtain ⟨r, reply⟩ := x
    obtain rfl : reply = replies r := told _ member
    exact alike r
  have told' : ∀ x ∈ (exchanges replies d).map retold, x.reply = replies' x.request := by
    intro x member
    obtain ⟨y, _, rfl⟩ := List.mem_map.1 member
    rfl
  obtain ⟨same, ends⟩ := (runs_iff_of_replies replies').1 ⟨(blind.runs_iff pairs).1 run, told'⟩
  exact ⟨same ▸ pairs, ends⟩

theorem blind_pure (a : α) : Blind (pure a : Dialogue σ α) := by
  intro t t' b alike run
  obtain ⟨rfl, rfl⟩ := runs_pure.1 run
  cases alike
  exact run

theorem Blind.bind {d : Dialogue σ α} {f : α → Dialogue σ β} (first : d.Blind) (second : ∀ a, (f a).Blind) :
    (d >>= f).Blind := by
  intro t t' b alike run
  obtain ⟨t₁, a, t₂, run₁, run₂, rfl⟩ := runs_bind.1 run
  refine runs_bind.2 ⟨_, a, _, first (List.forall₂_take_append t' t₁ t₂ alike) run₁,
    second a (List.forall₂_drop_append t' t₁ t₂ alike) run₂, (List.take_append_drop ..).symm⟩

theorem blind_request {r : Request σ} (other : ∀ s sql, r ≠ .query s sql) : Blind (request r) := by
  intro t t' reply alike run
  obtain rfl := runs_request.1 run
  cases alike with
  | cons pair none_ =>
    cases none_
    cases pair with
    | same => exact run
    | answers _ => exact absurd rfl (other _ _)

/-- What goes on with an answer must go on in the same way with one that is alike. -/
theorem blind_query {s : σ} {sql : String} {f : Except Failure Answer → Dialogue σ α} (each : ∀ reply, (f reply).Blind)
    (alike : ∀ a a', a.Alike a' → f (.ok a) = f (.ok a')) : Blind (request (.query s sql) >>= f) := by
  intro t t' a pairs run
  obtain ⟨_, reply, t₂, asked, run₂, rfl⟩ := runs_bind.1 run
  obtain rfl := runs_request.1 asked
  cases pairs with
  | cons pair pairs =>
    have rest := each reply pairs run₂
    cases pair with
    | same => exact runs_bind.2 ⟨_, reply, _, runs_request.2 rfl, rest, rfl⟩
    | answers pair =>
      rw [← alike _ _ pair] at rest
      exact runs_bind.2 ⟨_, _, _, runs_request.2 rfl, rest, rfl⟩

variable {address : Session → σ}

theorem blind_logAll (es : List LogEntry) : ((world address).logAll es).Blind := by
  induction es with
  | nil => exact blind_pure ()
  | cons e es ih => exact .bind (blind_request nofun) fun _ => ih

end Dialogue

open Dialogue

variable {address : Session → σ}

namespace Registry

theorem blind_probe (r : Registry) (dsn : String) (c : Connection) : (r.probe (world address) dsn c).Blind := by
  refine .bind (blind_request nofun) fun reply => ?_
  cases reply with
  | ok _ => exact blind_pure _
  | error e =>
    refine .bind (blind_request nofun) fun _ => ?_
    exact .bind (blind_request nofun) fun _ => blind_pure _

theorem blind_acquire (r : Registry) (dsn : String) : (r.acquire (world address) dsn).Blind := by
  unfold acquire
  split
  · exact blind_probe ..
  · refine .bind ?_ fun opened => ?_
    · unfold openSession
      split
      · exact blind_pure _
      · refine .bind (blind_request nofun) fun reply => ?_
        split <;> exact blind_pure _
    · split
      · exact blind_probe ..
      · exact blind_pure _

end Registry

theorem Banner.blind_ask (s : Session) : (ask (world address) s).Blind := by
  refine blind_query (fun reply => ?_) fun a a' alike => ?_
  · cases reply with
    | ok _ => exact blind_pure _
    | error _ => exact blind_pure _
  · exact congrArg pure (ofAnswer_eq alike)

theorem Plan.blind_contentOf (loader : Option Loader) : (contentOf (world address) loader).Blind := by
  cases loader with
  | none => exact blind_pure _
  | some l =>
    refine .bind (.bind (blind_request nofun) fun content => ?_) fun _ => blind_pure _
    cases content with
    | ok _ => exact blind_pure _
    | error _ => exact .bind (blind_request nofun) fun _ => blind_pure _

theorem Plan.blind_refresh (p : Plan) (c : Connection) (loader : Option Loader) :
    (p.refresh (world address) c loader).Blind := by
  refine .bind (Banner.blind_ask c.session) fun banner => ?_
  cases banner with
  | error _ => exact blind_pure _
  | ok banner =>
    refine .bind (blind_logAll _) fun _ => .bind (blind_contentOf loader) fun _ => ?_
    exact .bind (blind_logAll _) fun _ => blind_pure _

namespace Discovery

theorem blind_list (r : Registry) (base : String) : (list (world address) r base).Blind := by
  refine .bind (r.blind_acquire base) fun acquired => ?_
  obtain ⟨outcome, r⟩ := acquired
  cases outcome with
  | error _ => exact blind_pure _
  | ok c =>
    refine blind_query (fun reply => ?_) fun a a' alike => ?_
    · cases reply with
      | ok _ => exact blind_pure _
      | error _ => exact blind_pure _
    · simp only [names_eq alike]

theorem blind_expand (r : Registry) (exclude : List String) (base : String) :
    (expand (world address) r exclude base).Blind := by
  refine .bind (blind_list r base) fun listed => ?_
  obtain ⟨outcome, r⟩ := listed
  cases outcome with
  | error _ => exact .bind (blind_request nofun) fun _ => blind_pure _
  | ok _ => exact .bind (blind_logAll _) fun _ => blind_pure _

theorem blind_discover (r : Registry) (exclude bases : List String) :
    (discover (world address) r exclude bases).Blind := by
  refine .bind ?_ fun _ => blind_pure _
  induction bases generalizing r with
  | nil => exact blind_pure _
  | cons base bases ih =>
    exact .bind (blind_expand r exclude base) fun found => .bind (ih found.2) fun _ => blind_pure _

end Discovery

namespace Exporter

theorem blind_scrapeSettings (c : Connection) (r : TargetReport) : (scrapeSettings (world address) c r).Blind := by
  refine blind_query (fun reply => ?_) fun a a' alike => ?_
  · exact .bind (blind_logAll _) fun _ => .bind (blind_logAll _) fun _ => blind_pure _
  · simp only [Settings.collect_eq alike]

theorem blind_scrapeView (c : Connection) (v : View) (sql : String) (r : TargetReport) :
    (scrapeView (world address) c v sql r).Blind := by
  refine blind_query (fun reply => ?_) fun a a' alike => ?_
  · exact .bind (blind_logAll _) fun _ => .bind (blind_logAll _) fun _ => blind_pure _
  · simp only [View.collect_eq alike]

theorem blind_scrapeViews (c : Connection) (emitUntyped : Bool) (views : List (String × ViewMap)) (r : TargetReport) :
    (scrapeViews (world address) c emitUntyped views r).Blind := by
  induction views generalizing r with
  | nil => exact blind_pure _
  | cons entry views ih =>
    unfold scrapeViews
    split
    · exact ih r
    · exact .bind (blind_scrapeView ..) ih

theorem blind_scrapeConnected (e : Exporter) (c : Connection) (r : TargetReport) :
    (scrapeConnected (world address) e c r).Blind := by
  unfold scrapeConnected
  refine .bind (.bind (e.plan.blind_refresh c e.loader) fun _ => blind_pure _) fun refreshed => ?_
  obtain ⟨outcome, c, e⟩ := refreshed
  refine .bind (blind_logAll _) fun _ => ?_
  dsimp only
  split
  · exact .bind (blind_pure _) fun _ => .bind (blind_scrapeViews ..) fun _ => blind_pure _
  · exact .bind (blind_scrapeSettings ..) fun _ => .bind (blind_scrapeViews ..) fun _ => blind_pure _

theorem blind_scrapeTarget (e : Exporter) (dsn : String) : (e.scrapeTarget (world address) dsn).Blind := by
  refine .bind (e.registry.blind_acquire dsn) fun acquired => ?_
  obtain ⟨outcome, registry⟩ := acquired
  cases outcome with
  | ok c => exact blind_scrapeConnected ..
  | error f => exact .bind (blind_request nofun) fun _ => blind_pure _

theorem blind_scrapeTargets (e : Exporter) (dsns : List String) : (e.scrapeTargets (world address) dsns).Blind := by
  induction dsns generalizing e with
  | nil => exact blind_pure _
  | cons dsn dsns ih =>
    exact .bind (e.blind_scrapeTarget dsn) fun scraped => .bind (ih scraped.2) fun _ => blind_pure _

theorem blind_targets (e : Exporter) : (e.targets (world address)).Blind := by
  unfold targets
  split
  · exact .bind (Discovery.blind_discover ..) fun _ => blind_pure _
  · exact blind_pure _

theorem blind_scrape (e : Exporter) : (e.scrape (world address)).Blind := by
  refine .bind (blind_request nofun) fun start => .bind e.blind_targets fun chosen => ?_
  refine .bind (chosen.2.blind_scrapeTargets chosen.1) fun scraped => ?_
  exact .bind (blind_request nofun) fun finish => blind_pure _

/-- Text and bytes are told apart nowhere. A cell of either kind is converted and written the same, and a run that gets
some texts as bytes ends with the same: a refresh with the version and the maps, discovery with the databases, and a
scrape with all samples, labels and errors and with the exporter that it leaves behind. -/
theorem scrape_of_text_or_bytes :
    (∀ s : String, (Cell.bytes (Text.encode s)).toNumber = (Cell.text s).toNumber ∧
      (Cell.bytes (Text.encode s)).toLabel = (Cell.text s).toLabel ∧
      ∀ d : Descriptor, d.convert (.bytes (Text.encode s)) = d.convert (.text s)) ∧
    ∀ {t t' : List (Exchange σ)}, List.Forall₂ Exchange.Alike t t' →
      (∀ (p : Plan) (c : Connection) (loader : Option Loader) x,
        Runs (p.refresh (world address) c loader) t x ↔ Runs (p.refresh (world address) c loader) t' x) ∧
      (∀ (r : Registry) (exclude bases : List String) x,
        Runs (Discovery.discover (world address) r exclude bases) t x ↔
          Runs (Discovery.discover (world address) r exclude bases) t' x) ∧
      (∀ (e : Exporter) (dsn : String) x,
        Runs (e.scrapeTarget (world address) dsn) t x ↔ Runs (e.scrapeTarget (world address) dsn) t' x) ∧
      ∀ (e : Exporter) x, Runs (e.scrape (world address)) t x ↔ Runs (e.scrape (world address)) t' x := by
  refine ⟨fun s => ⟨Cell.toNumber_bytes s, Cell.toLabel_bytes s, fun d => d.convert_bytes s⟩, fun alike => ?_⟩
  exact ⟨fun p c loader _ => (p.blind_refresh c loader).runs_iff alike,
    fun r exclude bases _ => (Discovery.blind_discover r exclude bases).runs_iff alike,
    fun e dsn _ => (e.blind_scrapeTarget dsn).runs_iff alike, fun e _ => e.blind_scrape.runs_iff alike⟩

/-- A version, a setting and a row of a view of which every cell is bytes. -/
theorem scrape_of_bytes :
    let catalog : Catalog :=
      { views := ⟨[("pg_x", [⟨"a", .label, "", none, none⟩, ⟨"n", .gauge, "", none, none⟩])], by decide⟩ }
    let e := Exporter.of catalog {} ["host=db"]
    let texts (sql : String) : List String × List (List String) :=
      if sql = Banner.query then (["version"], [["PostgreSQL 11.2"]])
      else if sql = Settings.query then
        (["name", "setting", "unit", "short_desc", "vartype"], [["work_mem", "4096", "kB", "", "integer"]])
      else (["a", "n"], [["u", "1.5"]])
    let answer (cell : String → Cell) (sql : String) : Answer := ⟨(texts sql).1, (texts sql).2.map (·.map cell)⟩
    let replies (cell : String → Cell) : (r : Request Session) → r.Reply :=
      Request.replyOf (fun _ => .ok ()) (fun _ sql => .ok (answer cell sql)) (.error .notFound)
    let text := replies .text
    let bytes := replies fun s => .bytes (Text.encode s)
    let first := outcome text (e.scrape (world id))
    Runs (e.scrape (world id)) (exchanges text (e.scrape (world id))) first ∧
      Runs (e.scrape (world id)) (exchanges bytes (e.scrape (world id))) first ∧
      first.1.reports.map (fun r => (r.samples.map fun s => (s.name, s.labels), r.hasFailures, r.valueErrors.length)) =
        [([("pg_static", [("server", "db:5432"), ("short_version", "11.2.0"), ("version", "PostgreSQL 11.2")]),
            ("pg_settings_work_mem_bytes", [("server", "db:5432")]),
            ("pg_x_n", [("server", "db:5432"), ("a", "u")])], false, 0)] := by
  intro catalog e texts answer replies text bytes first
  obtain ⟨run, -⟩ := (runs_iff_of_replies text (d := e.scrape (world id))).2 ⟨rfl, rfl⟩
  have answers (sql : String) : (answer .text sql).Alike (answer (fun s => .bytes (Text.encode s)) sql) := by
    refine ⟨rfl, ?_⟩
    simp only [answer, RowsAlike, List.forall₂_map_left_iff, List.forall₂_map_right_iff, List.forall₂_same]
    exact fun _ _ s _ => .bytes s
  have alike (r : Request Session) : Exchange.Alike ⟨r, text r⟩ ⟨r, bytes r⟩ := by
    cases r with
    | query s sql => exact .answers (answers sql)
    | _ => exact .same _
  have pairs := (@blind_scrape _ id e).outcome_eq alike
  exact ⟨run, (((@scrape_of_text_or_bytes _ id).2 pairs.1).2.2.2 e _).1 run, by decide +kernel⟩

end Exporter

end PgMetrics
