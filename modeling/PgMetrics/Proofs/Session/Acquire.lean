import PgMetrics.Proofs.Dialogue
import PgMetrics.Session.Registry

namespace PgMetrics.Registry

open Dialogue

variable {σ : Type}

/-- The connection that a newly opened session makes. -/
def fresh (r : Registry) (target : Target) : Connection where
  session := ⟨r.opened, target⟩
  labels := target.labels r.constants

/-- The registry with a newly opened session. -/
def withFresh (r : Registry) (dsn : String) (target : Target) : Registry :=
  { r.add dsn (r.fresh target) with opened := r.opened + 1 }

theorem get?_withFresh (r : Registry) (dsn other : String) (target : Target) :
    (r.withFresh dsn target).connections.get? other =
      if other = dsn then some (r.fresh target) else r.connections.get? other :=
  Table.get?_insert ..

theorem get?_evict (r : Registry) (dsn other : String) :
    (r.evict dsn).connections.get? other =
      if other = dsn then none else r.connections.get? other :=
  Table.get?_erase ..

/-- A connection at hand is pinged, and is given up if it does not answer. -/
inductive Probes (address : Session → σ) (r : Registry) (dsn : String) (c : Connection) :
    List (Exchange σ) → Except Failure Connection → Registry → Prop
  | alive : Probes address r dsn c [⟨.ping (address c.session), .ok ()⟩] (.ok c) r
  | dead {e} : Probes address r dsn c
      [⟨.ping (address c.session), .error e⟩, .logged (.pingFailed c.target.fingerprint e),
        ⟨.close (address c.session), ()⟩]
      (.error (e.during (.validating (Dsn.redact dsn)))) (r.evict dsn)

/-- A connection is asked for by its connection string. Only without one at hand is a session opened. -/
inductive Acquires (address : Session → σ) (r : Registry) (dsn : String) :
    List (Exchange σ) → Except Failure Connection → Registry → Prop
  | unreadable {e} : r.connections.get? dsn = none → Target.read dsn = .error e →
      Acquires address r dsn [] (.error e) r
  | unopened {target e} : r.connections.get? dsn = none → Target.read dsn = .ok target →
      Acquires address r dsn [⟨.connect (address (r.fresh target).session), .error e⟩]
        (.error (e.during (.opening (Dsn.redact dsn)))) r
  | opened {target t outcome r'} : r.connections.get? dsn = none → Target.read dsn = .ok target →
      Probes address (r.withFresh dsn target) dsn (r.fresh target) t outcome r' →
      Acquires address r dsn (⟨.connect (address (r.fresh target).session), .ok ()⟩ :: t) outcome r'
  | found {c t outcome r'} : r.connections.get? dsn = some c →
      Probes address r dsn c t outcome r' → Acquires address r dsn t outcome r'

theorem runs_probe {address : Session → σ} {r r' : Registry} {dsn : String} {c : Connection}
    {t : List (Exchange σ)} {outcome : Except Failure Connection} :
    Runs (r.probe (world address) dsn c) t (outcome, r') ↔ Probes address r dsn c t outcome r' := by
  constructor
  · intro run
    obtain ⟨_, reply, _, pinged, rest, rfl⟩ := runs_bind.1 run
    rw [runs_request.1 pinged]
    cases reply with
    | ok _ =>
      obtain ⟨rfl, same⟩ := runs_pure.1 rest
      cases same
      exact .alive
    | error e =>
      obtain ⟨_, _, _, logged, closing, rfl⟩ := runs_bind.1 rest
      obtain ⟨_, _, _, closed, ended, rfl⟩ := runs_bind.1 closing
      obtain ⟨rfl, same⟩ := runs_pure.1 ended
      cases same
      rw [runs_request.1 logged, runs_request.1 closed]
      exact .dead
  · intro probes
    cases probes with
    | alive => exact .ask .done
    | dead => exact .ask (.ask (.ask .done))

theorem runs_acquire {address : Session → σ} {r r' : Registry} {dsn : String}
    {t : List (Exchange σ)} {outcome : Except Failure Connection} :
    Runs (r.acquire (world address) dsn) t (outcome, r') ↔ Acquires address r dsn t outcome r' := by
  unfold acquire
  constructor
  · intro run
    cases atDsn : r.connections.get? dsn with
    | some c =>
      rw [atDsn] at run
      exact .found atDsn (runs_probe.1 run)
    | none =>
      rw [atDsn] at run
      obtain ⟨_, ⟨_, _⟩, _, opening, rest, rfl⟩ := runs_bind.1 run
      unfold openSession at opening
      cases read : Target.read dsn with
      | error e =>
        rw [read] at opening
        obtain ⟨rfl, same⟩ := runs_pure.1 opening
        cases same
        obtain ⟨rfl, same⟩ := runs_pure.1 rest
        cases same
        exact .unreadable atDsn read
      | ok target =>
        rw [read] at opening
        obtain ⟨_, reply, _, connected, ended, rfl⟩ := runs_bind.1 opening
        rw [runs_request.1 connected]
        cases reply with
        | error e =>
          obtain ⟨rfl, same⟩ := runs_pure.1 ended
          cases same
          obtain ⟨rfl, same⟩ := runs_pure.1 rest
          cases same
          exact .unopened atDsn read
        | ok _ =>
          obtain ⟨rfl, same⟩ := runs_pure.1 ended
          cases same
          exact .opened atDsn read (runs_probe.1 rest)
  · intro acquires
    unfold openSession
    cases acquires with
    | unreadable atDsn read =>
      rw [atDsn, read]
      exact .done
    | unopened atDsn read =>
      rw [atDsn, read]
      exact .ask .done
    | opened atDsn read probes =>
      rw [atDsn, read]
      exact .ask (runs_probe.2 probes)
    | found atDsn probes =>
      rw [atDsn]
      exact runs_probe.2 probes

section Outcomes

variable {address : Session → σ} {r r' : Registry} {dsn : String} {c : Connection}
  {t : List (Exchange σ)} {outcome : Except Failure Connection}

theorem Probes.get?_of_ne (probes : Probes address r dsn c t outcome r') {other : String}
    (ne : other ≠ dsn) : r'.connections.get? other = r.connections.get? other := by
  cases probes with
  | alive => rfl
  | dead => rw [get?_evict, if_neg ne]

/-- What is handed out answered just now and is kept for the next time. -/
theorem Probes.get?_of_ok {d : Connection} (probes : Probes address r dsn c t (.ok d) r')
    (atDsn : r.connections.get? dsn = some c) :
    r'.connections.get? dsn = some d ∧ ⟨.ping (address d.session), .ok ()⟩ ∈ t := by
  cases probes with
  | alive => exact ⟨atDsn, List.mem_singleton_self _⟩

theorem Probes.get?_of_error {e : Failure} (probes : Probes address r dsn c t (.error e) r') :
    r'.connections.get? dsn = none := by
  cases probes with
  | dead => rw [get?_evict, if_pos rfl]

theorem Acquires.get?_of_ne (acquires : Acquires address r dsn t outcome r') {other : String}
    (ne : other ≠ dsn) : r'.connections.get? other = r.connections.get? other := by
  cases acquires with
  | unreadable => rfl
  | unopened => rfl
  | opened _ _ probes => rw [probes.get?_of_ne ne, get?_withFresh, if_neg ne]
  | found _ probes => exact probes.get?_of_ne ne

theorem Acquires.get?_of_ok (acquires : Acquires address r dsn t (.ok c) r') :
    r'.connections.get? dsn = some c ∧ ⟨.ping (address c.session), .ok ()⟩ ∈ t := by
  cases acquires with
  | opened _ _ probes =>
    obtain ⟨kept, pinged⟩ := probes.get?_of_ok (by rw [get?_withFresh, if_pos rfl])
    exact ⟨kept, List.mem_cons_of_mem _ pinged⟩
  | found atDsn probes => exact probes.get?_of_ok atDsn

theorem Acquires.get?_of_error {e : Failure} (acquires : Acquires address r dsn t (.error e) r') :
    r'.connections.get? dsn = none := by
  cases acquires with
  | unreadable atDsn => exact atDsn
  | unopened atDsn => exact atDsn
  | opened _ _ probes => exact probes.get?_of_error
  | found _ probes => exact probes.get?_of_error

theorem Acquires.absent_of_connect (acquires : Acquires address r dsn t outcome r') {s : σ}
    {reply : Except Failure Unit} (member : ⟨.connect s, reply⟩ ∈ t) :
    r.connections.get? dsn = none := by
  cases acquires with
  | unreadable atDsn => exact atDsn
  | unopened atDsn => exact atDsn
  | opened atDsn => exact atDsn
  | found _ probes =>
    cases probes with
    | alive => simp at member
    | dead => simp [Exchange.logged] at member

/-- Each connection belongs to the connection string that it is kept under. -/
def Keyed (r : Registry) : Prop :=
  ∀ dsn c, r.connections.get? dsn = some c → c.target.dsn = dsn

theorem keyed_new (constants : Table String) : Keyed { constants } := by
  intro dsn c atDsn
  cases atDsn

theorem Keyed.add (keyed : r.Keyed) (own : c.target.dsn = dsn) : (r.add dsn c).Keyed := by
  intro other c' atOther
  change (r.connections.insert dsn c).get? other = some c' at atOther
  rw [Table.get?_insert] at atOther
  split at atOther
  · cases atOther
    exact own.trans ‹other = dsn›.symm
  · exact keyed other c' atOther

theorem Keyed.evict (keyed : r.Keyed) : (r.evict dsn).Keyed := by
  intro other c atOther
  rw [get?_evict] at atOther
  split at atOther
  · cases atOther
  · exact keyed other c atOther

theorem Keyed.withFresh (keyed : r.Keyed) {target : Target} (read : Target.read dsn = .ok target) :
    (r.withFresh dsn target).Keyed := by
  have own : (r.fresh target).target.dsn = dsn := Target.dsn_of_read read
  exact keyed.add own

theorem Probes.keyed (probes : Probes address r dsn c t outcome r') (keyed : r.Keyed) : r'.Keyed := by
  cases probes with
  | alive => exact keyed
  | dead => exact keyed.evict

theorem Acquires.keyed (acquires : Acquires address r dsn t outcome r') (keyed : r.Keyed) : r'.Keyed := by
  cases acquires with
  | unreadable => exact keyed
  | unopened => exact keyed
  | opened _ read probes => exact probes.keyed (keyed.withFresh read)
  | found _ probes => exact probes.keyed keyed

theorem Probes.constants_eq (probes : Probes address r dsn c t outcome r') : r'.constants = r.constants := by
  cases probes with
  | alive => rfl
  | dead => rfl

theorem Acquires.constants_eq (acquires : Acquires address r dsn t outcome r') : r'.constants = r.constants := by
  cases acquires with
  | unreadable => rfl
  | unopened => rfl
  | opened _ _ probes => exact probes.constants_eq.trans rfl
  | found _ probes => exact probes.constants_eq

end Outcomes

end PgMetrics.Registry
