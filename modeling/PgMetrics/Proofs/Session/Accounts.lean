import Mathlib
import PgMetrics.Proofs.Session.Acquire

namespace PgMetrics

open Dialogue

/-- Whether a session was opened. -/
def Exchange.opens (s : Session) : Exchange Session → Bool
  | ⟨.connect s', .ok _⟩ => s' = s
  | _ => false

/-- Whether a session was closed. -/
def Exchange.closes (s : Session) : Exchange Session → Bool
  | ⟨.close s', _⟩ => s' = s
  | _ => false

/-- How often a session was opened. -/
def openings (s : Session) (past : List (Exchange Session)) : Nat :=
  past.countP (·.opens s)

/-- How often a session was closed. -/
def closings (s : Session) (past : List (Exchange Session)) : Nat :=
  past.countP (·.closes s)

theorem openings_append (s : Session) (past t : List (Exchange Session)) :
    openings s (past ++ t) = openings s past + openings s t :=
  List.countP_append

theorem closings_append (s : Session) (past t : List (Exchange Session)) :
    closings s (past ++ t) = closings s past + closings s t :=
  List.countP_append

/-- A connection string leads to sessions of its own only. Numbers that were not given out are new. -/
structure Registry.Accounts (r : Registry) (past : List (Exchange Session)) : Prop where
  keyed : r.Keyed
  live : ∀ {dsn c}, r.connections.get? dsn = some c →
    openings c.session past = 1 ∧ closings c.session past = 0
  settled : ∀ s, (∀ dsn c, r.connections.get? dsn = some c → c.session ≠ s) →
    openings s past ≤ 1 ∧ closings s past = openings s past
  unopened : ∀ s, r.opened ≤ s.number → openings s past = 0

namespace Registry

theorem accounts_new (constants : Table String) : Accounts { constants } [] where
  keyed := keyed_new constants
  live atDsn := by simp at atDsn
  settled _ _ := by simp [openings, closings]
  unopened _ _ := rfl

variable {r r' : Registry} {dsn : String} {c : Connection} {past t : List (Exchange Session)}

/-- Exchanges that neither open nor close a session do not count. -/
theorem Accounts.quiet (accounts : r.Accounts past) (opened : ∀ s, openings s t = 0)
    (closed : ∀ s, closings s t = 0) : r.Accounts (past ++ t) := by
  have opens (s : Session) : openings s (past ++ t) = openings s past := by
    rw [openings_append, opened, Nat.add_zero]
  have closes (s : Session) : closings s (past ++ t) = closings s past := by
    rw [closings_append, closed, Nat.add_zero]
  refine ⟨accounts.keyed, ?_, ?_, ?_⟩
  · intro dsn c atDsn
    rw [opens, closes]
    exact accounts.live atDsn
  · intro s absent
    rw [opens, closes]
    exact accounts.settled s absent
  · intro s unused
    rw [opens]
    exact accounts.unopened s unused

/-- A session is given up and closed in one go. Other connection strings have other sessions. -/
theorem Accounts.evict (accounts : r.Accounts past) (atDsn : r.connections.get? dsn = some c)
    (opened : ∀ s, openings s t = 0) (closed : ∀ s, closings s t = if c.session = s then 1 else 0) :
    (r.evict dsn).Accounts (past ++ t) := by
  have opens (s : Session) : openings s (past ++ t) = openings s past := by
    rw [openings_append, opened, Nat.add_zero]
  have closes (s : Session) :
      closings s (past ++ t) = closings s past + if c.session = s then 1 else 0 := by
    rw [closings_append, closed]
  have kept {other : String} {d : Connection} (atOther : (r.evict dsn).connections.get? other = some d) :
      other ≠ dsn ∧ r.connections.get? other = some d := by
    rw [get?_evict] at atOther
    split at atOther
    · cases atOther
    · exact ⟨‹_›, atOther⟩
  refine ⟨accounts.keyed.evict, ?_, ?_, ?_⟩
  · intro other d atOther
    obtain ⟨ne, before⟩ := kept atOther
    -- A session names its connection string, so one that is kept elsewhere is another.
    have differ : d.session ≠ c.session := by
      intro same
      apply ne
      rw [← accounts.keyed _ _ before, ← accounts.keyed _ _ atDsn, Connection.target, Connection.target, same]
    rw [opens, closes, if_neg (Ne.symm differ)]
    exact accounts.live before
  · intro s absent
    rw [opens, closes]
    by_cases same : c.session = s
    · have live := accounts.live atDsn
      rw [same] at live
      rw [live.1, live.2, if_pos same]
      omega
    · rw [if_neg same]
      refine accounts.settled s ?_
      intro other d before
      by_cases at_ : other = dsn
      · subst other
        rw [atDsn] at before
        cases before
        exact same
      · refine absent other d ?_
        rw [get?_evict, if_neg at_, before]
  · intro s unused
    rw [opens]
    exact accounts.unopened s unused

/-- A session that is opened has a number of its own, so it was never opened before. -/
theorem Accounts.withFresh (accounts : r.Accounts past) (atDsn : r.connections.get? dsn = none)
    {target : Target} (read : Target.read dsn = .ok target) :
    (r.withFresh dsn target).Accounts (past ++ [⟨.connect (r.fresh target).session, .ok ()⟩]) := by
  have opens (s : Session) : openings s (past ++ [⟨.connect (r.fresh target).session, .ok ()⟩]) =
      openings s past + if (r.fresh target).session = s then 1 else 0 := by
    rw [openings_append]
    simp [openings, List.countP_cons, Exchange.opens]
  have closes (s : Session) : closings s (past ++ [⟨.connect (r.fresh target).session, .ok ()⟩]) =
      closings s past :=
    closings_append ..
  have new : openings (r.fresh target).session past = 0 := accounts.unopened _ (Nat.le_refl _)
  have absent : ∀ other d, r.connections.get? other = some d → d.session ≠ (r.fresh target).session := by
    intro other d before same
    have live := (accounts.live before).1
    rw [same, new] at live
    cases live
  have kept {other : String} {d : Connection}
      (atOther : (r.withFresh dsn target).connections.get? other = some d) :
      other = dsn ∧ d = r.fresh target ∨ r.connections.get? other = some d := by
    rw [get?_withFresh] at atOther
    split at atOther
    · cases atOther
      exact Or.inl ⟨‹_›, rfl⟩
    · exact Or.inr atOther
  refine ⟨accounts.keyed.withFresh read, ?_, ?_, ?_⟩
  · intro other d atOther
    rw [opens, closes]
    rcases kept atOther with ⟨rfl, rfl⟩ | before
    · have settled := accounts.settled _ absent
      rw [if_pos rfl]
      omega
    · rw [if_neg (Ne.symm (absent other d before))]
      exact accounts.live before
  · intro s others
    have ne : (r.fresh target).session ≠ s := others dsn _ (by rw [get?_withFresh, if_pos rfl])
    rw [opens, closes, if_neg ne]
    refine accounts.settled s ?_
    intro other d before
    refine others other d ?_
    have differ : other ≠ dsn := by
      rintro rfl
      rw [atDsn] at before
      cases before
    rw [get?_withFresh, if_neg differ, before]
  · intro s unused
    have later : r.opened + 1 ≤ s.number := unused
    have ne : (r.fresh target).session ≠ s := by
      rintro rfl
      exact Nat.not_succ_le_self _ later
    rw [opens, if_neg ne]
    exact accounts.unopened s (by omega)

theorem Accounts.probes (accounts : r.Accounts past) (atDsn : r.connections.get? dsn = some c)
    {outcome : Except Failure Connection} (probes : Probes id r dsn c t outcome r') :
    r'.Accounts (past ++ t) := by
  cases probes with
  | alive => exact accounts.quiet (fun _ => rfl) (fun _ => rfl)
  | dead =>
    refine accounts.evict atDsn (fun _ => rfl) ?_
    intro s
    simp [closings, List.countP_cons, Exchange.closes, Exchange.logged]

theorem Accounts.acquires (accounts : r.Accounts past) {outcome : Except Failure Connection}
    (acquires : Acquires id r dsn t outcome r') : r'.Accounts (past ++ t) := by
  cases acquires with
  | unreadable => exact accounts.quiet (fun _ => rfl) (fun _ => rfl)
  | unopened => exact accounts.quiet (fun _ => rfl) (fun _ => rfl)
  | found atDsn probes => exact accounts.probes atDsn probes
  | opened atDsn read probes =>
    have opened := accounts.withFresh atDsn read
    have probed := opened.probes (by rw [get?_withFresh, if_pos rfl]) probes
    rw [List.append_assoc] at probed
    exact probed

theorem runs_closeEach {entries : List (String × Connection)} {u : Unit} :
    Runs (closeEach (world id) entries) t u ↔ t = entries.map fun e => ⟨.close e.2.session, ()⟩ := by
  induction entries generalizing t with
  | nil => simp [closeEach]
  | cons e entries ih =>
    simp only [closeEach, runs_bind, ih]
    constructor
    · rintro ⟨_, _, _, first, rfl, rfl⟩
      rw [runs_request.1 first]
      rfl
    · rintro rfl
      exact ⟨[⟨.close e.2.session, ()⟩], (), _, runs_request.2 rfl, rfl, rfl⟩

theorem closes_of_runs (run : Runs (r.closeAll (world id)) t r') :
    t = r.connections.entries.map (fun e => ⟨.close e.2.session, ()⟩) ∧
      r' = { r with connections := .empty } := by
  obtain ⟨_, _, _, each, ended, rfl⟩ := runs_bind.1 run
  obtain ⟨rfl, same⟩ := runs_pure.1 ended
  rw [runs_closeEach.1 each]
  exact ⟨List.append_nil _, same⟩

/-- No session is at hand twice. -/
theorem Accounts.sessions_nodup (accounts : r.Accounts past) :
    (r.connections.entries.map (·.2.session)).Nodup := by
  rw [List.Nodup, List.pairwise_map]
  refine r.connections.sorted.imp_of_mem ?_
  intro a b memA memB lt same
  have atA := accounts.keyed _ _ (r.connections.mem_entries_iff.1 memA)
  have atB := accounts.keyed _ _ (r.connections.mem_entries_iff.1 memB)
  rw [← atA, ← atB, Connection.target, Connection.target, same] at lt
  exact String.lt_irrefl _ lt

theorem Accounts.closeAll (accounts : r.Accounts past) (run : Runs (r.closeAll (world id)) t r') :
    r'.Accounts (past ++ t) := by
  obtain ⟨rfl, rfl⟩ := closes_of_runs run
  have opens (s : Session) : openings s (past ++ r.connections.entries.map
      fun e => ⟨.close e.2.session, ()⟩) = openings s past := by
    rw [openings_append]
    simp [openings, List.countP_map, Function.comp_def, Exchange.opens]
  have closes (s : Session) : closings s (past ++ r.connections.entries.map
      fun e => ⟨.close e.2.session, ()⟩) =
        closings s past + (r.connections.entries.map (·.2.session)).count s := by
    rw [closings_append, Nat.add_left_cancel_iff, closings, List.countP_map, List.count, List.countP_map]
    congr 1
  refine ⟨keyed_new r.constants, ?_, ?_, ?_⟩
  · intro dsn c atDsn
    cases atDsn
  · intro s _
    rw [opens, closes]
    by_cases member : s ∈ r.connections.entries.map (·.2.session)
    · obtain ⟨⟨dsn, c⟩, memC, rfl⟩ := List.mem_map.1 member
      have live := accounts.live (r.connections.mem_entries_iff.1 memC)
      rw [accounts.sessions_nodup.count, if_pos member, live.1, live.2]
      omega
    · rw [List.count_eq_zero.2 member]
      refine accounts.settled s ?_
      rintro dsn c atDsn rfl
      exact member (List.mem_map.2 ⟨_, r.connections.mem_entries_iff.2 atDsn, rfl⟩)
  · intro s unused
    rw [opens]
    exact accounts.unopened s unused

/-- A registry that was new once, with all that was exchanged in the calls since then. -/
inductive Used (constants : Table String) : Registry → List (Exchange Session) → Prop
  | new : Used constants { constants } []
  | acquire {before after dsn past t outcome} : Used constants before past →
      Runs (before.acquire (world id) dsn) t (outcome, after) → Used constants after (past ++ t)
  | closeAll {before after past t} : Used constants before past →
      Runs (before.closeAll (world id)) t after → Used constants after (past ++ t)

theorem Used.accounts {constants : Table String} (used : Used constants r past) : r.Accounts past := by
  induction used with
  | new => exact accounts_new constants
  | acquire _ run ih => exact ih.acquires (runs_acquire.1 run)
  | closeAll _ run ih => exact ih.closeAll run

/-- After any calls, a session is at hand under its own connection string and was never closed, or it was closed as
often as it was opened, which is once at most. The next call hands out a connection that answered and is kept, or
keeps none, and leaves the others; closing all closes what is at hand, and nothing when that is done again. -/
theorem Used.every_session_kept_or_closed_once {constants : Table String} (used : Used constants r past) :
    (∀ dsn c, r.connections.get? dsn = some c →
      c.target.dsn = dsn ∧ openings c.session past = 1 ∧ closings c.session past = 0) ∧
    (∀ s, (∀ dsn c, r.connections.get? dsn = some c → c.session ≠ s) →
      openings s past ≤ 1 ∧ closings s past = openings s past) ∧
    (∀ dsn t outcome r', Runs (r.acquire (world id) dsn) t (outcome, r') →
      (∀ c, outcome = .ok c →
        r'.connections.get? dsn = some c ∧ ⟨.ping c.session, .ok ()⟩ ∈ t) ∧
      (∀ s reply, ⟨.connect s, reply⟩ ∈ t → r.connections.get? dsn = none) ∧
      (∀ e, outcome = .error e → r'.connections.get? dsn = none) ∧
      ∀ other, other ≠ dsn → r'.connections.get? other = r.connections.get? other) ∧
    ∀ t r', Runs (r.closeAll (world id)) t r' →
      r'.connections = .empty ∧ ∀ t' r'', Runs (r'.closeAll (world id)) t' r'' → t' = [] := by
  have accounts := used.accounts
  refine ⟨fun dsn c atDsn => ⟨accounts.keyed dsn c atDsn, accounts.live atDsn⟩, accounts.settled, ?_, ?_⟩
  · intro dsn t outcome r' run
    have acquires := runs_acquire.1 run
    refine ⟨?_, fun s reply => acquires.absent_of_connect, ?_, fun other => acquires.get?_of_ne⟩
    · rintro c rfl
      exact acquires.get?_of_ok
    · rintro e rfl
      exact acquires.get?_of_error
  · intro t r' run
    obtain ⟨rfl, rfl⟩ := closes_of_runs run
    refine ⟨rfl, ?_⟩
    intro t' r'' again
    exact (closes_of_runs again).1

/-- The first session does not answer and is closed; the second call opens another. -/
theorem used_after_lost_session :
    let target : Target := ⟨"host=db", "db:5432"⟩
    let first : Session := ⟨0, target⟩
    let second : Session := ⟨1, target⟩
    let e : Failure := .of (.database .unreachable)
    let past : List (Exchange Session) :=
      [⟨.connect first, .ok ()⟩, ⟨.ping first, .error e⟩, .logged (.pingFailed "db:5432" e),
        ⟨.close first, ()⟩, ⟨.connect second, .ok ()⟩, ⟨.ping second, .ok ()⟩]
    ∃ r c, Used .empty r past ∧ r.connections.get? "host=db" = some c ∧ c.session = second ∧
      openings second past = 1 ∧ closings second past = 0 ∧
      openings first past = 1 ∧ closings first past = openings first past := by
  intro target first second e past
  have read : Target.read "host=db" = .ok target := by cbv
  let lost : Registry := (withFresh {} "host=db" target).evict "host=db"
  have absent : lost.connections.get? "host=db" = none := by rw [get?_evict, if_pos rfl]
  have used : Used .empty (lost.withFresh "host=db" target) past :=
    .acquire (.acquire .new (runs_acquire.2 (.opened rfl read .dead)))
      (runs_acquire.2 (.opened absent read .alive))
  have kept : (lost.withFresh "host=db" target).connections.get? "host=db" = some (lost.fresh target) := by
    rw [get?_withFresh, if_pos rfl]
  obtain ⟨live, settled, _⟩ := used.every_session_kept_or_closed_once
  refine ⟨_, _, used, kept, rfl, (live _ _ kept).2.1, (live _ _ kept).2.2, rfl, (settled first ?_).2⟩
  intro dsn c atDsn same
  rw [get?_withFresh, get?_evict] at atDsn
  split at atDsn
  · cases atDsn
    exact Nat.one_ne_zero (congrArg Session.number same)
  · rw [get?_withFresh, if_neg ‹_›] at atDsn
    cases atDsn

end Registry

end PgMetrics
