import PgMetrics.Proofs.Session.Acquire

namespace PgMetrics

/-- Sessions are called by their connection strings. -/
def Session.dsn (s : Session) : String :=
  s.target.dsn

/-- All of a connection but the number of its session. -/
def Connection.known (c : Connection) : Target × Labels × MapState :=
  (c.target, c.labels, c.state)

theorem Connection.eq_of_known {c c' : Connection} (same : c.known = c'.known) :
    c' = { c with session := ⟨c'.session.number, c.target⟩ } := by
  obtain ⟨⟨n, target⟩, labels, state⟩ := c
  obtain ⟨⟨n', target'⟩, labels', state'⟩ := c'
  cases same
  rfl

namespace Registry

/-- A and B differ at most under a connection string `d`. -/
structure Alike (d : String) (r r' : Registry) : Prop where
  constants : r.constants = r'.constants
  keyed : r.Keyed
  keyed' : r'.Keyed
  known : ∀ x, x ≠ d → (r.connections.get? x).map Connection.known = (r'.connections.get? x).map Connection.known

variable {d x : String} {r r' r₁ r₁' : Registry} {c c' : Connection} {t : List (Exchange String)}
  {outcome : Except Failure Connection}

theorem Alike.symm (alike : r.Alike d r') : r'.Alike d r where
  constants := alike.constants.symm
  keyed := alike.keyed'
  keyed' := alike.keyed
  known x ne := (alike.known x ne).symm

theorem Alike.add (alike : r.Alike d r') (own : c.target.dsn = x) (same : c.known = c'.known) :
    (r.add x c).Alike d (r'.add x c') where
  constants := alike.constants
  keyed := alike.keyed.add own
  keyed' := alike.keyed'.add ((congrArg (·.1.dsn) same).symm.trans own)
  known y ne := by
    change ((r.connections.insert x c).get? y).map _ = ((r'.connections.insert x c').get? y).map _
    rw [Table.get?_insert, Table.get?_insert]
    split
    · exact congrArg some same
    · exact alike.known y ne

theorem Alike.evict (alike : r.Alike d r') : (r.evict x).Alike d (r'.evict x) where
  constants := alike.constants
  keyed := alike.keyed.evict
  keyed' := alike.keyed'.evict
  known y ne := by
    rw [get?_evict, get?_evict]
    split
    · rfl
    · exact alike.known y ne

/-- What happens under the string itself sets nothing apart. -/
theorem Alike.of_constants_eq (alike : r.Alike d r') (constants : r₁.constants = r.constants) (keyed : r₁.Keyed)
    (others : ∀ x, x ≠ d → r₁.connections.get? x = r.connections.get? x) : r₁.Alike d r' where
  constants := constants.trans alike.constants
  keyed := keyed
  keyed' := alike.keyed'
  known x ne := by
    rw [others x ne]
    exact alike.known x ne

theorem Alike.fresh {target : Target} (alike : r.Alike d r') : (r.fresh target).known = (r'.fresh target).known := by
  simp only [Connection.known, Registry.fresh, alike.constants]
  rfl

theorem Alike.withFresh {target : Target} (alike : r.Alike d r') (read : Target.read x = .ok target) :
    (r.withFresh x target).Alike d (r'.withFresh x target) := by
  have added := alike.add (Target.dsn_of_read read : (r.fresh target).target.dsn = x) alike.fresh
  exact ⟨added.constants, added.keyed, added.keyed', added.known⟩

theorem Probes.alike (alike : r.Alike d r') (same : c.known = c'.known)
    (probes : Probes Session.dsn r x c t outcome r₁) :
    ∃ outcome' r₁', Probes Session.dsn r' x c' t outcome' r₁' ∧
      outcome.map Connection.known = outcome'.map Connection.known ∧ r₁.Alike d r₁' := by
  have atTarget : c.target = c'.target := congrArg (·.1) same
  have address : c.session.dsn = c'.session.dsn := congrArg Target.dsn atTarget
  cases probes with
  | alive =>
    rw [address]
    exact ⟨_, _, .alive, congrArg Except.ok same, alike⟩
  | dead =>
    rw [address, atTarget]
    exact ⟨_, _, .dead, rfl, alike.evict⟩

/-- Under another string, a connection is asked for with the same exchanges and the same outcome. -/
theorem Acquires.alike (alike : r.Alike d r') (ne : x ≠ d)
    (acquires : Acquires Session.dsn r x t outcome r₁) :
    ∃ outcome' r₁', Acquires Session.dsn r' x t outcome' r₁' ∧
      outcome.map Connection.known = outcome'.map Connection.known ∧ r₁.Alike d r₁' := by
  have known := alike.known x ne
  cases acquires with
  | unreadable atDsn read =>
    rw [atDsn] at known
    exact ⟨_, _, .unreadable (Option.map_eq_none_iff.1 known.symm) read, rfl, alike⟩
  | unopened atDsn read =>
    rw [atDsn] at known
    exact ⟨_, _, .unopened (Option.map_eq_none_iff.1 known.symm) read, rfl, alike⟩
  | opened atDsn read probes =>
    rw [atDsn] at known
    obtain ⟨outcome', r₁', probes', same, after⟩ := probes.alike (alike.withFresh read) alike.fresh
    exact ⟨_, _, .opened (Option.map_eq_none_iff.1 known.symm) read probes', same, after⟩
  | found atDsn probes =>
    rw [atDsn] at known
    obtain ⟨c', atDsn', same⟩ := Option.map_eq_some_iff.1 known.symm
    obtain ⟨outcome', r₁', probes', alikeOutcome, after⟩ := probes.alike alike same.symm
    exact ⟨_, _, .found atDsn' probes', alikeOutcome, after⟩

/-- What is done under the one string is of no account. -/
theorem Acquires.alike_left (alike : r.Alike d r') (acquires : Acquires Session.dsn r d t outcome r₁) :
    r₁.Alike d r' :=
  alike.of_constants_eq acquires.constants_eq (acquires.keyed alike.keyed) fun _ ne => acquires.get?_of_ne ne

end Registry

end PgMetrics
