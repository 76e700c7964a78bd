import PgMetrics.Proofs.Dialogue
import PgMetrics.Session.Refresh

namespace PgMetrics

open Dialogue

variable {σ : Type}

/-- The banner in the outcome of the query for it. -/
def Banner.ofReply : Except Failure Answer → Except Failure Banner
  | .ok a => ofAnswer a
  | .error e => .error (e.during .askingVersion)

/-- A reading takes whatever the file has; a file that cannot be read is only logged. -/
theorem Loader.runs_read {address : Session → σ} {path : String} {t : List (Exchange σ)} {c : Content} :
    Runs (read (world address) path) t c ↔ t = ⟨.content path, c⟩ :: (match c with
      | .ok _ => []
      | .error e => [.logged (.documentUnreadable path e)]) := by
  constructor
  · intro run
    obtain ⟨_, reply, _, asked, rest, rfl⟩ := runs_bind.1 run
    rw [runs_request.1 asked]
    cases reply with
    | ok bytes =>
      obtain ⟨rfl, rfl⟩ := runs_pure.1 rest
      rfl
    | error e =>
      obtain ⟨_, _, _, logged, told, rfl⟩ := runs_bind.1 rest
      obtain ⟨rfl, rfl⟩ := runs_pure.1 told
      rw [runs_request.1 logged]
      rfl
  · rintro rfl
    cases c with
    | ok bytes => exact .ask .done
    | error e => exact .ask (.ask .done)

namespace Plan

/-- The sample of the version, which is one of the default metrics. -/
def versionSample (p : Plan) (labels : Labels) (banner : Banner) : Option Sample :=
  if p.options.disableDefaultMetrics then none else some (banner.sample labels)

/-- A document is read afresh each time, if there is one. -/
inductive Reads : Option Loader → List (Exchange σ) → Option Content → Prop
  | none : Reads none [] none
  | readable {l bytes} : Reads (some l) [⟨.content l.path, .ok bytes⟩] (some (.ok bytes))
  | unreadable {l e} : Reads (some l)
      [⟨.content l.path, .error e⟩, .logged (.documentUnreadable l.path e)] (some (.error e))

/-- The version is asked for first. Without one the document is not read and nothing changes. -/
inductive Refreshes (address : Session → σ) (p : Plan) (c : Connection) (loader : Option Loader) :
    List (Exchange σ) → Except Failure (Option Sample) → MapState → Option Loader → Prop
  | failed {reply e} : Banner.ofReply reply = .error e →
      Refreshes address p c loader [⟨.query (address c.session) Banner.query, reply⟩]
        (.error e) c.state loader
  | done {reply banner t content state loader'} : Banner.ofReply reply = .ok banner →
      Reads loader t content → p.advance c.state loader banner.version content = (state, loader') →
      Refreshes address p c loader
        (⟨.query (address c.session) Banner.query, reply⟩ ::
          ((p.oldServerLog c.target.fingerprint banner.version).map .logged ++ (t ++
            (p.advanceLog c.target.fingerprint c.state loader banner.version content).map .logged)))
        (.ok (p.versionSample c.labels banner)) state loader'

theorem runs_contentOf {address : Session → σ} {loader : Option Loader} {t : List (Exchange σ)}
    {content : Option Content} :
    Runs (contentOf (world address) loader) t content ↔ Reads loader t content := by
  constructor
  · intro run
    cases loader with
    | none =>
      obtain ⟨rfl, rfl⟩ := runs_pure.1 run
      exact .none
    | some l =>
      obtain ⟨_, c, _, reading, ended, rfl⟩ := runs_bind.1 run
      obtain ⟨rfl, rfl⟩ := runs_pure.1 ended
      rw [Loader.runs_read.1 reading, List.append_nil]
      cases c with
      | ok bytes => exact .readable
      | error e => exact .unreadable
  · intro reads
    cases reads with
    | none => exact .done
    | readable => exact .ask .done
    | unreadable => exact .ask (.ask .done)

theorem runs_ask {address : Session → σ} {s : Session} {t : List (Exchange σ)}
    {outcome : Except Failure Banner} :
    Runs (Banner.ask (world address) s) t outcome ↔
      ∃ reply, t = [⟨.query (address s) Banner.query, reply⟩] ∧ outcome = Banner.ofReply reply := by
  constructor
  · intro run
    obtain ⟨_, reply, _, asked, ended, rfl⟩ := runs_bind.1 run
    rw [runs_request.1 asked]
    refine ⟨reply, ?_⟩
    cases reply <;>
    · obtain ⟨rfl, rfl⟩ := runs_pure.1 ended
      exact ⟨rfl, rfl⟩
  · rintro ⟨reply, rfl, rfl⟩
    cases reply <;> exact .ask .done

theorem runs_refresh {address : Session → σ} {p : Plan} {c : Connection} {loader loader' : Option Loader}
    {t : List (Exchange σ)} {outcome : Except Failure (Option Sample)} {state : MapState} :
    Runs (p.refresh (world address) c loader) t (outcome, state, loader') ↔
      Refreshes address p c loader t outcome state loader' := by
  unfold refresh
  constructor
  · intro run
    obtain ⟨_, _, _, asking, rest, rfl⟩ := runs_bind.1 run
    obtain ⟨reply, rfl, rfl⟩ := runs_ask.1 asking
    cases told : Banner.ofReply reply with
    | error e =>
      rw [told] at rest
      obtain ⟨rfl, same⟩ := runs_pure.1 rest
      cases same
      exact .failed told
    | ok banner =>
      rw [told] at rest
      obtain ⟨_, _, _, warned, reading, rfl⟩ := runs_bind.1 rest
      obtain ⟨_, content, _, read, advancing, rfl⟩ := runs_bind.1 reading
      obtain ⟨_, _, _, logged, ended, rfl⟩ := runs_bind.1 advancing
      obtain ⟨rfl, same⟩ := runs_pure.1 ended
      obtain ⟨rfl, advanced⟩ := Prod.mk.inj same
      rw [runs_logAll.1 warned, runs_logAll.1 logged, List.append_nil]
      exact .done told (runs_contentOf.1 read) advanced.symm
  · intro refreshes
    cases refreshes with
    | failed told =>
      refine runs_bind.2 ⟨_, _, _, runs_ask.2 ⟨_, rfl, rfl⟩, ?_, rfl⟩
      rw [told]
      exact .done
    | done told reads advanced =>
      refine runs_bind.2 ⟨_, _, _, runs_ask.2 ⟨_, rfl, rfl⟩, ?_, rfl⟩
      rw [told]
      refine runs_bind.2 ⟨_, (), _, runs_logAll.2 rfl, ?_, rfl⟩
      refine runs_bind.2 ⟨_, _, _, runs_contentOf.2 reads, ?_, rfl⟩
      rw [← advanced]
      exact runs_bind.2 ⟨_, (), _, runs_logAll.2 rfl, .done, (List.append_nil _).symm⟩

end Plan

end PgMetrics
