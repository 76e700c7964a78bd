import PgMetrics.Proofs.Scrape.Cycles
import PgMetrics.Proofs.Scrape.Neighbours

namespace PgMetrics

open Dialogue Registry

variable {σ : Type}

/-- Whether a session could not be opened, did not answer or refused a query. -/
def Exchange.isFailed : Exchange σ → Bool
  | ⟨.connect _, .error _⟩ => true
  | ⟨.ping _, .error _⟩ => true
  | ⟨.query _ _, .error _⟩ => true
  | _ => false

namespace Registry

variable {address : Session → σ} {r r' : Registry} {x : String} {c : Connection} {t : List (Exchange σ)}

theorem Probes.isFailed_of_error {e : Failure} (probes : Probes address r x c t (.error e) r') :
    ∃ y ∈ t, y.isFailed = true := by
  cases probes with
  | dead => exact ⟨_, List.mem_cons_self .., rfl⟩

theorem Probes.isFailed_of_ok {d : Connection} (probes : Probes address r x c t (.ok d) r') :
    ∀ y ∈ t, y.isFailed = false := by
  cases probes with
  | alive =>
    intro y member
    rw [List.mem_singleton.1 member]
    rfl

/-- There is no connection if the string cannot be read, or else if something failed. -/
theorem Acquires.isFailed_of_error {e : Failure} (acquires : Acquires address r x t (.error e) r') :
    (∃ e', Target.read x = .error e') ∨ ∃ y ∈ t, y.isFailed = true := by
  cases acquires with
  | unreadable _ read => exact .inl ⟨e, read⟩
  | unopened => exact .inr ⟨_, List.mem_singleton_self _, rfl⟩
  | opened _ _ probes =>
    obtain ⟨y, member, failed⟩ := probes.isFailed_of_error
    exact .inr ⟨y, List.mem_cons_of_mem _ member, failed⟩
  | found _ probes => exact .inr probes.isFailed_of_error

theorem Acquires.isFailed_of_ok (acquires : Acquires address r x t (.ok c) r') (labelled : r.Labelled) :
    (∃ target, Target.read x = .ok target) ∧ ∀ y ∈ t, y.isFailed = false := by
  cases acquires with
  | opened _ read probes => exact ⟨⟨_, read⟩, List.forall_mem_cons.2 ⟨rfl, probes.isFailed_of_ok⟩⟩
  | found atDsn probes => exact ⟨⟨_, (labelled _ _ atDsn).1⟩, probes.isFailed_of_ok⟩

theorem Labelled.keyed (labelled : r.Labelled) : r.Keyed :=
  fun x c atX => Target.dsn_of_read (labelled x c atX).1

end Registry

namespace Discovery

/-- Of equal strings the first stays. -/
theorem distinct_eq (seen ss : List String) : distinct seen ss = (ss.filter (· ∉ seen)).eraseDups := by
  induction ss generalizing seen with
  | nil => rfl
  | cons s ss ih =>
    rw [distinct]
    split
    · rename_i known
      rw [ih, List.filter_cons_of_neg (by simpa using known)]
    · rename_i new
      rw [ih, List.filter_cons_of_pos (by simpa using new), List.eraseDups_cons, List.filter_filter]
      congr 2
      refine List.filter_congr fun x _ => ?_
      by_cases same : x = s <;> simp [same]

theorem distinct_nil (ss : List String) : distinct [] ss = ss.eraseDups := by
  rw [distinct_eq, List.filter_eq_self.2 (by simp)]

/-- The connection string for the database in a row of a listing. -/
def derived? (base : String) (exclude : List String) (row : List Cell) : Option String :=
  match row.head?.map Cell.toLabel with
  | some (.ok name) => if name = "" ∨ name ∈ exclude then none else (Dsn.selectDatabase base name).toOption
  | _ => none

theorem derive_eq_filterMap (base : String) (exclude listed : List String) : derive base exclude listed =
    listed.filterMap fun name => if name ∈ exclude then none else (Dsn.selectDatabase base name).toOption := by
  induction listed with
  | nil => rfl
  | cons name listed ih =>
    rw [derive, List.filterMap_cons]
    split
    · exact ih
    · cases Dsn.selectDatabase base name with
      | ok dsn => exact congrArg _ ih
      | error e => exact ih

theorem derive_names (base : String) (exclude : List String) (a : Answer) :
    derive base exclude (names a) = a.rows.filterMap (derived? base exclude) := by
  rw [derive_eq_filterMap, names, List.filterMap_filterMap]
  congr 1
  funext row
  rw [derived?]
  match row.head?.map Cell.toLabel with
  | none => rfl
  | some (.error _) => rfl
  | some (.ok name) => by_cases empty : name = "" <;> simp [empty]

/-- A connection string with all that was exchanged for it. -/
structure Visit (σ : Type) where
  base : String
  exchanges : List (Exchange σ)

namespace Visit

/-- The answer of the server, if its databases could be listed. -/
def listing? (v : Visit σ) : Option Answer :=
  (queries v.exchanges).findSome? (·.2.2.toOption)

/-- Nothing can be listed for a string that cannot be read, or if something failed. -/
def Fails (v : Visit σ) : Prop :=
  (∃ e, Target.read v.base = .error e) ∨ ∃ x ∈ v.exchanges, x.isFailed = true

/-- What a connection string contributes: itself, and the databases of the listing in their order. -/
def contributes (exclude : List String) (v : Visit σ) : List String :=
  v.base :: v.listing?.elim [] (·.rows.filterMap (derived? v.base exclude))

end Visit

/-- One connection string is visited after the other. -/
inductive Visits (address : Session → σ) (exclude : List String) :
    Registry → List (Visit σ) → Registry → Prop
  | done {r} : Visits address exclude r [] r
  | next {r r₁ r' base t listing visits} : Lists address r base t listing r₁ →
      Visits address exclude r₁ visits r' →
      Visits address exclude r (⟨base, t ++ (listingLog base exclude listing).map .logged⟩ :: visits) r'

section Listing

variable {address : Session → σ} {r r' : Registry} {base : String} {exclude : List String} {t : List (Exchange σ)}
  {listing : Except Failure Answer}

theorem Visit.listing?_logged (es : List LogEntry) :
    Visit.listing? ⟨base, t ++ es.map .logged⟩ = Visit.listing? ⟨base, t⟩ := by
  rw [listing?, queries_append, queries_logged, List.append_nil]
  rfl

theorem Lists.listing?_eq (lists : Lists address r base t listing r') :
    Visit.listing? ⟨base, t⟩ = listing.toOption := by
  rw [Visit.listing?]
  cases lists with
  | unconnected acquires =>
    rw [acquires.queries_eq]
    rfl
  | @asked _ _ reply _ acquires =>
    rw [queries_append, acquires.queries_eq]
    cases reply <;> rfl

theorem Lists.contributes_eq (lists : Lists address r base t listing r') :
    Visit.contributes exclude ⟨base, t ++ (listingLog base exclude listing).map .logged⟩ =
      base :: derive base exclude ((listing.map names).toOption.getD []) := by
  rw [Visit.contributes, Visit.listing?_logged, lists.listing?_eq]
  cases listing with
  | error e => rfl
  | ok a => exact congrArg _ (derive_names base exclude a).symm

/-- What is logged is no failure of a server. -/
theorem Visit.fails_logged (es : List LogEntry) :
    Visit.Fails ⟨base, t ++ es.map .logged⟩ ↔ Visit.Fails ⟨base, t⟩ := by
  simp only [Visit.Fails, List.mem_append, List.mem_map, or_and_right, exists_or]
  refine or_congr_right (or_iff_left ?_)
  rintro ⟨_, ⟨_, _, rfl⟩, failed⟩
  cases failed

theorem Lists.fails_iff (lists : Lists address r base t listing r') (labelled : r.Labelled) :
    Visit.Fails ⟨base, t⟩ ↔ listing.toOption = none := by
  cases lists with
  | unconnected acquires => exact iff_of_true acquires.isFailed_of_error rfl
  | @asked t c reply _ acquires =>
    cases reply with
    | error e => exact iff_of_true (.inr ⟨_, List.mem_append_right _ (List.mem_singleton_self _), rfl⟩) rfl
    | ok a =>
      refine iff_of_false ?_ (Option.some_ne_none a)
      obtain ⟨⟨_, read⟩, fine⟩ := acquires.isFailed_of_ok labelled
      rintro (⟨_, unread⟩ | ⟨y, member, failed⟩)
      · cases read.symm.trans unread
      · obtain earlier | now := List.mem_append.1 member
        · rw [fine y earlier] at failed
          cases failed
        · rw [List.mem_singleton.1 now] at failed
          cases failed

/-- One connection string is visited after the other. -/
theorem runs_expandEach {bases found : List String}
    (run : Runs (expandEach (world address) exclude bases r) t (found, r')) :
    ∃ visits, Visits address exclude r visits r' ∧ visits.map (·.base) = bases ∧
      visits.flatMap (·.exchanges) = t ∧ found = visits.flatMap (·.contributes exclude) := by
  induction bases generalizing r t found with
  | nil =>
    obtain ⟨rfl, same⟩ := runs_pure.1 run
    cases same
    exact ⟨[], .done, rfl, rfl, rfl⟩
  | cons base bases ih =>
    obtain ⟨_, ⟨first, r₁⟩, _, expanded, rest, rfl⟩ := runs_bind.1 run
    obtain ⟨_, ⟨others, r₂⟩, _, later, ended, rfl⟩ := runs_bind.1 rest
    obtain ⟨rfl, same⟩ := runs_pure.1 ended
    cases same
    obtain ⟨t₁, listing, lists, rfl, rfl⟩ := runs_expand expanded
    obtain ⟨visits, visited, rfl, rfl, rfl⟩ := ih later
    refine ⟨_ :: visits, .next lists visited, rfl, ?_, ?_⟩
    · rw [List.flatMap_cons, List.append_nil]
    · rw [List.flatMap_cons, lists.contributes_eq]

theorem runs_discover {bases found : List String}
    (run : Runs (discover (world address) r exclude bases) t (found, r')) :
    ∃ visits, Visits address exclude r visits r' ∧ visits.map (·.base) = bases ∧
      visits.flatMap (·.exchanges) = t ∧ found = (visits.flatMap (·.contributes exclude)).eraseDups := by
  obtain ⟨_, ⟨all, r₁⟩, _, expanded, ended, rfl⟩ := runs_bind.1 run
  obtain ⟨rfl, same⟩ := runs_pure.1 ended
  cases same
  obtain ⟨visits, visited, bases, rfl, rfl⟩ := runs_expandEach expanded
  exact ⟨visits, visited, bases, (List.append_nil _).symm, distinct_nil _⟩

theorem Visits.fails_iff {visits : List (Visit σ)} (visited : Visits address exclude r visits r')
    (labelled : r.Labelled) : ∀ v ∈ visits, v.Fails ↔ v.listing? = none := by
  induction visited with
  | done =>
    intro v member
    cases member
  | next lists _ ih =>
    refine List.forall_mem_cons.2 ⟨?_, ih (labelled.of_renews lists.renews)⟩
    rw [Visit.fails_logged, lists.fails_iff labelled, Visit.listing?_logged, lists.listing?_eq]

end Listing

theorem heard_logged (x : String) (es : List LogEntry) : heard x (es.map .logged) = [] :=
  List.filter_eq_nil_iff.2 fun y member => by
    obtain ⟨e, _, rfl⟩ := List.mem_map.1 member
    simp [Exchange.logged, Request.session?]

section Alike

variable {d x : String} {r r' r₁ r₁' : Registry} {exclude : List String} {t t' : List (Exchange String)}
  {listing listing' : Except Failure Answer}

theorem Lists.concerns (lists : Lists Session.dsn r x t listing r₁) (keyed : r.Keyed) : Concerns x t := by
  cases lists with
  | unconnected acquires => exact acquires.concerns keyed
  | asked acquires =>
    have own := acquires.keyed keyed _ _ acquires.get?_of_ok.1
    exact (acquires.concerns keyed).append (.cons (.inl (congrArg some own)) .nil)

/-- For another connection string than the one set apart, the same is asked. -/
theorem Lists.alike (alike : r.Alike d r') (ne : x ≠ d) (lists : Lists Session.dsn r x t listing r₁) :
    ∃ r₁', Lists Session.dsn r' x t listing r₁' ∧ r₁.Alike d r₁' := by
  cases lists with
  | unconnected acquires =>
    obtain ⟨outcome', r₁', acquires', same, after⟩ := acquires.alike alike ne
    cases outcome' with
    | ok => cases same
    | error =>
      cases same
      exact ⟨r₁', .unconnected acquires', after⟩
  | @asked t c reply _ acquires =>
    obtain ⟨outcome', r₁', acquires', same, after⟩ := acquires.alike alike ne
    cases outcome' with
    | error => cases same
    | ok c' =>
      have address : c.session.dsn = c'.session.dsn := congrArg (·.1.dsn) (Except.ok.inj same)
      rw [address]
      exact ⟨r₁', .asked acquires', after⟩

theorem Lists.alike_left (alike : r.Alike d r') (lists : Lists Session.dsn r d t listing r₁) : r₁.Alike d r' := by
  cases lists with
  | unconnected acquires => exact acquires.alike_left alike
  | asked acquires => exact acquires.alike_left alike

/-- Listings for another connection string are the same once what is heard from its server agrees. -/
theorem Lists.eq_of_heard (alike : r.Alike d r') (ne : x ≠ d) (lists : Lists Session.dsn r x t listing r₁)
    (lists' : Lists Session.dsn r' x t' listing' r₁') (agree : Agree (heard x t) (heard x t')) :
    t = t' ∧ r₁.Alike d r₁' := by
  have concerns := lists.concerns alike.keyed
  obtain ⟨r₂, lists₂, after⟩ := lists.alike alike ne
  obtain ⟨rfl, same⟩ := (runs_list.2 ⟨_, lists₂, rfl⟩).eq_of_agree (·.session? == some x)
    (runs_list.2 ⟨_, lists', rfl⟩) (fun y member other => (concerns y member).resolve_left (by simpa using other))
    agree
  cases (Prod.mk.inj same).2
  exact ⟨rfl, after⟩

/-- A visit is to the server of its own connection string. -/
theorem Visits.concerns {visits : List (Visit String)} (visited : Visits Session.dsn exclude r visits r₁)
    (keyed : r.Keyed) : ∀ v ∈ visits, Concerns v.base v.exchanges := by
  induction visited with
  | done =>
    intro v member
    cases member
  | next lists _ ih =>
    exact List.forall_mem_cons.2 ⟨(lists.concerns keyed).append (.logged _), ih (keyed.of_renews lists.renews)⟩

/-- Of two lists of visits to the same connection strings, those to others than the one set apart contribute the same
once what is heard from their servers agrees. -/
theorem Visits.contributes_eq {visits visits' : List (Visit String)} (alike : r.Alike d r')
    (visited : Visits Session.dsn exclude r visits r₁) (visited' : Visits Session.dsn exclude r' visits' r₁')
    (bases : visits.map (·.base) = visits'.map (·.base))
    (agree : ∀ y, y ≠ d → Agree (heard y (visits.flatMap (·.exchanges))) (heard y (visits'.flatMap (·.exchanges)))) :
    List.Forall₂ (fun v v' => v.base ≠ d → v.contributes exclude = v'.contributes exclude) visits visits' := by
  induction visited generalizing r' visits' with
  | done =>
    rw [List.map_eq_nil_iff.1 bases.symm]
    exact .nil
  | @next r r₂ r₁ x t listing visits lists _ ih =>
    cases visited' with
    | done => cases bases
    | @next _ r₂' _ x' t' listing' visits' lists' later' =>
      obtain ⟨rfl, others⟩ := List.cons.inj bases
      simp only [List.flatMap_cons, heard_append, heard_logged, List.append_nil] at agree
      -- The one set apart says nothing to the others, and any other one goes the same way in both runs.
      by_cases apart : x = d
      · subst apart
        have after := (lists'.alike_left (lists.alike_left alike).symm).symm
        refine .cons (fun ne => absurd rfl ne) (ih after later' others ?_)
        intro y ne
        have quiet := (lists.concerns alike.keyed).heard_eq_nil ne
        have quiet' := (lists'.concerns alike.keyed').heard_eq_nil ne
        simpa only [quiet, quiet', List.nil_append] using agree y ne
      · obtain ⟨rfl, after⟩ := lists.eq_of_heard alike apart lists' (agree x apart).of_append
        refine .cons (fun _ => ?_) (ih after later' others fun y ne => (agree y ne).of_append_left)
        simp only [Visit.contributes, Visit.listing?_logged]

end Alike

variable {r r' : Registry} {exclude bases found : List String} {t : List (Exchange String)}

/-- Each connection string in turn contributes itself and then what its own server lists, which is nothing exactly if
something fails on the way; of equal strings the first stays. In another run in which at most the server of one string
behaves differently, every other string contributes the same. -/
theorem bases_expanded_in_order (labelled : r.Labelled)
    (run : Runs (discover (world Session.dsn) r exclude bases) t (found, r')) :
    ∃ visits : List (Visit String), visits.map (·.base) = bases ∧ visits.flatMap (·.exchanges) = t ∧
      (∀ v ∈ visits, Concerns v.base v.exchanges ∧ (v.Fails ↔ v.listing? = none)) ∧
      found = (visits.flatMap (·.contributes exclude)).eraseDups ∧
      found.Nodup ∧ (∀ base ∈ bases, base ∈ found) ∧
      ∀ d r₁ r₁' t' found', r.Alike d r₁ →
        Runs (discover (world Session.dsn) r₁ exclude bases) t' (found', r₁') →
        (∀ y, y ≠ d → Agree (heard y t) (heard y t')) →
        ∃ visits' : List (Visit String), visits'.map (·.base) = bases ∧ visits'.flatMap (·.exchanges) = t' ∧
          found' = (visits'.flatMap (·.contributes exclude)).eraseDups ∧
          List.Forall₂ (fun v v' => v.base ≠ d → v.contributes exclude = v'.contributes exclude) visits visits' := by
  obtain ⟨visits, visited, rfl, rfl, rfl⟩ := runs_discover run
  refine ⟨visits, rfl, rfl, ?_, rfl, ?_, ?_, ?_⟩
  · exact fun v member => ⟨visited.concerns labelled.keyed v member, visited.fails_iff labelled v member⟩
  · rw [← distinct_nil]
    exact (distinct_nodup [] _).1
  · intro base member
    obtain ⟨v, memV, rfl⟩ := List.mem_map.1 member
    exact List.mem_eraseDups.2 (List.mem_flatMap.2 ⟨v, memV, List.mem_cons_self ..⟩)
  · intro d r₁ r₁' t' found' alike run' agree
    obtain ⟨visits', visited', bases, rfl, rfl⟩ := runs_discover run'
    exact ⟨visits', bases, rfl, rfl, visited.contributes_eq alike visited' bases.symm agree⟩

/-- The first and the last of three strings name one server. If that server is lost, the string stays, its databases
are missing, and the other string still stands besides for its own. -/
theorem discovered_beside_lost_server :
    let replies (lost : Bool) := Request.replyOf
      (fun x => if lost && x == "host=b" then .error (.of (.database .unreachable)) else .ok ())
      (fun _ _ => .ok ⟨["datname"], [[.text "app"], [.text ""], [], [.text "old"], [.text "app"]]⟩) (.error .notFound)
    let run (lost : Bool) :=
      play (fun _ => replies lost) [] (discover (world Session.dsn) {} ["old"] ["host=b", "host=a", "host=b"])
    (run false).2.1 = ["host=b", "host=b dbname=app", "host=a", "host=a dbname=app"] ∧
      (run true).2.1 = ["host=b", "host=a", "host=a dbname=app"] ∧
      ∃ visits visits' : List (Visit String), visits.map (·.base) = ["host=b", "host=a", "host=b"] ∧
        (run false).2.1 = (visits.flatMap (·.contributes ["old"])).eraseDups ∧
        (run true).2.1 = (visits'.flatMap (·.contributes ["old"])).eraseDups ∧
        List.Forall₂ (fun v v' => v.base ≠ "host=b" → v.contributes ["old"] = v'.contributes ["old"]) visits visits' := by
  intro replies run
  have runs (lost : Bool) : Runs (discover (world Session.dsn) {} ["old"] ["host=b", "host=a", "host=b"]) (run lost).1
      (run lost).2 := runs_play _ _ _
  have recorded (lost : Bool) (y : String) : ∀ x ∈ heard y (run lost).1, x.reply = replies lost x.request :=
    fun x member => reply_of_mem_play _ _ _ x (List.mem_filter.1 member).1
  have agree (y : String) (ne : y ≠ "host=b") : Agree (heard y (run false).1) (heard y (run true).1) := by
    refine agree_of_replies (recorded false y) (recorded true y) ?_
    intro x member
    have atY := (List.mem_filter.1 member).2
    obtain ⟨request, _⟩ := x
    cases request with
    | connect z =>
      have eq : z = y := by simpa [Request.session?] using atY
      simp [replies, Request.replyOf, eq, ne]
    | _ => rfl
  have new : Alike "host=b" {} {} := ⟨rfl, keyed_new _, keyed_new _, fun _ _ => rfl⟩
  obtain ⟨visits, bases, -, -, first, -, -, other⟩ := bases_expanded_in_order (labelled_new _) (runs false)
  obtain ⟨visits', -, -, second, same⟩ := other _ _ _ _ _ new (runs true) agree
  exact ⟨by decide +kernel, by decide +kernel, visits, visits', bases, first, second, same⟩

end Discovery

end PgMetrics
