import PgMetrics.Proofs.Session.Acquire
import PgMetrics.Scrape.Discovery

namespace PgMetrics

open Dialogue

variable {σ : Type}

namespace Registry

/-- Every connection was there before or has just been opened for its connection string. -/
structure Renews (r r' : Registry) : Prop where
  constants : r'.constants = r.constants
  connection : ∀ x c, r'.connections.get? x = some c → r.connections.get? x = some c ∨
    ∃ n target, Target.read x = .ok target ∧
      c = { session := ⟨n, target⟩, labels := target.labels r.constants }

/-- Each connection is to the target that its connection string names, and has the labels of that target. -/
def Labelled (r : Registry) : Prop :=
  ∀ x c, r.connections.get? x = some c →
    Target.read x = .ok c.target ∧ c.labels = c.target.labels r.constants

variable {address : Session → σ} {r r' r'' : Registry} {x : String} {c : Connection} {t : List (Exchange σ)}

theorem Renews.refl (r : Registry) : r.Renews r :=
  ⟨rfl, fun _ _ => .inl⟩

theorem Renews.trans (first : r.Renews r') (second : r'.Renews r'') : r.Renews r'' := by
  refine ⟨second.constants.trans first.constants, ?_⟩
  intro x c atX
  obtain before | ⟨n, target, read, rfl⟩ := second.connection x c atX
  · exact first.connection x c before
  · exact .inr ⟨n, target, read, by rw [first.constants]⟩

theorem Keyed.of_renews (keyed : r.Keyed) (renews : r.Renews r') : r'.Keyed := by
  intro x c atX
  obtain before | ⟨_, _, read, rfl⟩ := renews.connection x c atX
  · exact keyed x c before
  · exact Target.dsn_of_read read

theorem renews_evict (r : Registry) (x : String) : r.Renews (r.evict x) := by
  refine ⟨rfl, ?_⟩
  intro y c atY
  rw [get?_evict] at atY
  split at atY
  · cases atY
  · exact .inl atY

theorem renews_withFresh {target : Target} (read : Target.read x = .ok target) :
    r.Renews (r.withFresh x target) := by
  refine ⟨rfl, ?_⟩
  intro y c atY
  rw [get?_withFresh] at atY
  split at atY
  case isTrue same =>
    cases atY
    exact .inr ⟨_, target, same ▸ read, rfl⟩
  case isFalse => exact .inl atY

theorem Probes.renews {outcome : Except Failure Connection} (probes : Probes address r x c t outcome r') :
    r.Renews r' := by
  cases probes with
  | alive => exact .refl r
  | dead => exact renews_evict r x

theorem Acquires.renews {outcome : Except Failure Connection} (acquires : Acquires address r x t outcome r') :
    r.Renews r' := by
  cases acquires with
  | unreadable => exact .refl r
  | unopened => exact .refl r
  | opened _ read probes => exact (renews_withFresh read).trans probes.renews
  | found _ probes => exact probes.renews

theorem labelled_new (constants : Table String) : Labelled { constants } := by
  intro x c atX
  cases atX

theorem Labelled.of_renews (labelled : r.Labelled) (renews : r.Renews r') : r'.Labelled := by
  intro x c atX
  rw [renews.constants]
  obtain before | ⟨n, target, read, rfl⟩ := renews.connection x c atX
  · exact labelled x c before
  · exact ⟨read, rfl⟩

/-- A connection that is put back keeps its target and its labels. -/
theorem Labelled.add (labelled : r.Labelled) (atX : r.connections.get? x = some c) (state : MapState) :
    (r.add x { c with state }).Labelled := by
  intro y d atY
  rw [Registry.add, Table.get?_insert] at atY
  split at atY
  case isTrue same =>
    cases atY
    exact same ▸ labelled x c atX
  case isFalse => exact labelled y d atY

end Registry

namespace Discovery

open Registry

variable {address : Session → σ} {r r' : Registry} {t : List (Exchange σ)}

/-- For the databases of a server a connection is asked for, and if there is one it is queried. -/
inductive Lists (address : Session → σ) (r : Registry) (base : String) :
    List (Exchange σ) → Except Failure Answer → Registry → Prop
  | unconnected {t e r'} : r.Acquires address base t (.error e) r' → Lists address r base t (.error e) r'
  | asked {t c reply r'} : r.Acquires address base t (.ok c) r' →
      Lists address r base (t ++ [⟨.query (address c.session) query, reply⟩]) (during .askingDatabases reply) r'

theorem runs_list {base : String} {outcome : Except Failure (List String)} :
    Runs (list (world address) r base) t (outcome, r') ↔
      ∃ listing, Lists address r base t listing r' ∧ outcome = listing.map names := by
  constructor
  · intro run
    obtain ⟨t₁, ⟨acquired, r₁⟩, t₂, acquiring, rest, rfl⟩ := runs_bind.1 run
    have acquires := runs_acquire.1 acquiring
    cases acquired with
    | error e =>
      obtain ⟨rfl, same⟩ := runs_pure.1 rest
      cases same
      rw [List.append_nil]
      exact ⟨_, .unconnected acquires, rfl⟩
    | ok c =>
      obtain ⟨_, reply, _, asked, ended, rfl⟩ := runs_bind.1 rest
      rw [runs_request.1 asked]
      cases reply <;>
      · obtain ⟨rfl, same⟩ := runs_pure.1 ended
        cases same
        exact ⟨_, .asked acquires, rfl⟩
  · rintro ⟨listing, lists, rfl⟩
    cases lists with
    | unconnected acquires => exact runs_bind.2 ⟨_, _, _, runs_acquire.2 acquires, .done, (List.append_nil _).symm⟩
    | @asked _ c reply _ acquires =>
      refine runs_bind.2 ⟨_, _, _, runs_acquire.2 acquires, ?_, rfl⟩
      cases reply <;> exact .ask .done

theorem Lists.renews {base : String} {listing : Except Failure Answer} (lists : Lists address r base t listing r') :
    r.Renews r' := by
  cases lists with
  | unconnected acquires => exact acquires.renews
  | asked acquires => exact acquires.renews

/-- What is logged of a listing. -/
def listingLog (base : String) (exclude : List String) : Except Failure Answer → List LogEntry
  | .error e => [.discoveryFailed (Dsn.redact base) e]
  | .ok a => deriveLog base exclude (names a)

/-- A connection string stands for itself, and for the databases of its server if they are listed. -/
theorem runs_expand {exclude found : List String} {base : String}
    (run : Runs (expand (world address) r exclude base) t (found, r')) :
    ∃ t₁ listing, Lists address r base t₁ listing r' ∧ t = t₁ ++ (listingLog base exclude listing).map .logged ∧
      found = base :: derive base exclude ((listing.map names).toOption.getD []) := by
  obtain ⟨_, ⟨listed, r₁⟩, _, asking, rest, rfl⟩ := runs_bind.1 run
  obtain ⟨listing, lists, rfl⟩ := runs_list.1 asking
  cases listing with
  | error e =>
    obtain ⟨_, _, _, logged, ended, rfl⟩ := runs_bind.1 rest
    obtain ⟨rfl, same⟩ := runs_pure.1 ended
    cases same
    rw [runs_request.1 logged]
    exact ⟨_, _, lists, rfl, rfl⟩
  | ok a =>
    obtain ⟨_, _, _, logged, ended, rfl⟩ := runs_bind.1 rest
    obtain ⟨rfl, same⟩ := runs_pure.1 ended
    cases same
    rw [runs_logAll.1 logged, List.append_nil]
    exact ⟨_, _, lists, rfl, rfl⟩

theorem renews_of_expand {exclude found : List String} {base : String}
    (run : Runs (expand (world address) r exclude base) t (found, r')) : r.Renews r' := by
  obtain ⟨_, _, lists, _⟩ := runs_expand run
  exact lists.renews

theorem renews_of_expandEach {exclude bases found : List String}
    (run : Runs (expandEach (world address) exclude bases r) t (found, r')) : r.Renews r' := by
  induction bases generalizing r t found with
  | nil =>
    obtain ⟨rfl, same⟩ := runs_pure.1 run
    cases same
    exact .refl _
  | cons base bases ih =>
    obtain ⟨_, ⟨first, r₁⟩, _, expanded, rest, rfl⟩ := runs_bind.1 run
    obtain ⟨_, ⟨others, r₂⟩, _, later, ended, rfl⟩ := runs_bind.1 rest
    obtain ⟨rfl, same⟩ := runs_pure.1 ended
    cases same
    exact (renews_of_expand expanded).trans (ih later)

theorem renews_of_discover {exclude bases found : List String}
    (run : Runs (discover (world address) r exclude bases) t (found, r')) : r.Renews r' := by
  obtain ⟨_, ⟨all, r₁⟩, _, expanded, ended, rfl⟩ := runs_bind.1 run
  obtain ⟨rfl, same⟩ := runs_pure.1 ended
  cases same
  exact renews_of_expandEach expanded

end Discovery

end PgMetrics
