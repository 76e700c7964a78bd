import Mathlib
import PgMetrics.Proofs.Session.Refresh

namespace PgMetrics

open Dialogue

/-- What came of reading a file. -/
def Exchange.content? {σ : Type} : Exchange σ → Option Content
  | ⟨.content _, reply⟩ => some reply
  | _ => none

/-- What a server said when it was asked for its version. -/
def Exchange.banner? {σ : Type} : Exchange σ → Option (Except Failure Banner)
  | ⟨.query _ sql, reply⟩ => if sql = Banner.query then some (Banner.ofReply reply) else none
  | _ => none

/-- A refresh: what was exchanged in it and how it ended. -/
structure RefreshCall where
  exchanges : List (Exchange Session)
  outcome : Except Failure (Option Sample)

namespace RefreshCall

def content? (call : RefreshCall) : Option Content :=
  call.exchanges.findSome? Exchange.content?

def banner? (call : RefreshCall) : Option (Except Failure Banner) :=
  call.exchanges.findSome? Exchange.banner?

/-- The contents that were read in those calls that succeeded. -/
def contents (calls : List RefreshCall) : List Content :=
  calls.filterMap fun call =>
    match call.outcome with
    | .ok _ => call.content?
    | .error _ => none

end RefreshCall

/-- The document of the last content that describes one, or else the one that the loader brought along. -/
def latestDocument (loader : Option Loader) (contents : List Content) : Option Document :=
  loader.bind fun l =>
    (contents.filterMap fun c => (Content.document l.path c).toOption).getLast?.or l.lastGood

/-- Different contents have different hash sums. -/
def HashesApart (contents : List Content) : Prop :=
  ∀ a ∈ contents, ∀ b ∈ contents, ∀ hash, a.hashsum? = some hash → b.hashsum? = some hash → a = b

theorem HashesApart.of_append {a b : List Content} (apart : HashesApart (a ++ b)) : HashesApart a :=
  fun x hx y hy => apart x (List.mem_append_left _ hx) y (List.mem_append_left _ hy)

theorem latestDocument_append_singleton (l : Loader) (contents : List Content) (c : Content) :
    latestDocument (some l) (contents ++ [c]) =
      (Content.document l.path c).toOption.or (latestDocument (some l) contents) := by
  simp only [latestDocument, Option.bind_some, List.filterMap_append]
  cases described : (Content.document l.path c).toOption with
  | none => simp [described]
  | some d => simp [described]

theorem Content.document_of_unreadable {path : String} {c : Content} (unreadable : c.hashsum? = none) :
    (Content.document path c).toOption = none := by
  cases c with
  | error _ => rfl
  | ok _ => cases unreadable

/-- A content with the hash sum of the one before tells nothing new: it is the same, or neither can be read. -/
theorem latestDocument_of_hashsum?_eq {l : Loader} {earlier : List Content} {last c : Content}
    (apart : HashesApart (earlier ++ [last] ++ [c])) (same : last.hashsum? = c.hashsum?) :
    latestDocument (some l) (earlier ++ [last] ++ [c]) = latestDocument (some l) (earlier ++ [last]) := by
  rw [latestDocument_append_singleton]
  cases readable : c.hashsum? with
  | none => rw [Content.document_of_unreadable readable, Option.none_or]
  | some hash =>
    have equal : last = c := apart last (by simp) c (by simp) hash (same.trans readable) readable
    rw [← equal, latestDocument_append_singleton, ← Option.or_assoc, Option.or_self]

/-- The maps are those of the last version that was read, with the latest document; the loader remembers that
document, and the hash sum is that of the last content that was read. -/
structure MapsCurrent (p : Plan) (loader : Option Loader) (contents : List Content) (state : MapState)
    (l : Option Loader) : Prop where
  path : l.map (·.path) = loader.map (·.path)
  document : l.bind (·.lastGood) = latestDocument loader contents
  maps : ∀ v, state.version = some v →
    state.maps = Maps.build p.catalog p.options v (latestDocument loader contents)
  absent : loader = none → state.documentHash = none
  hash : loader ≠ none → state.version ≠ none →
    ∃ earlier last, contents = earlier ++ [last] ∧ state.documentHash = last.hashsum?

theorem mapsCurrent_fresh (p : Plan) (loader : Option Loader) : MapsCurrent p loader [] {} loader where
  path := rfl
  document := by cases loader <;> simp [latestDocument]
  maps v built := by cases built
  absent _ := rfl
  hash _ built := absurd rfl built

namespace MapsCurrent

variable {p : Plan} {loader l l' : Option Loader} {contents : List Content} {state state' : MapState}

/-- Loading a content makes its document, or else the one before, the latest. -/
theorem lastGood_reload (current : MapsCurrent p loader contents state l) {content : Option Content}
    (read : content.isSome = l.isSome) :
    (Plan.reload l content).bind (·.lastGood) = latestDocument loader (contents ++ content.toList) ∧
      (Plan.reload l content).map (·.path) = loader.map (·.path) := by
  have path := current.path
  have document := current.document
  cases content with
  | none => simpa [Plan.reload] using ⟨document, path⟩
  | some c =>
    obtain ⟨before, rfl⟩ := Option.isSome_iff_exists.1 read.symm
    cases loader with
    | none => cases path
    | some first =>
      have same : before.path = first.path := Option.some.inj path
      refine ⟨?_, by simpa [Plan.reload] using same⟩
      rw [Option.toList_some, latestDocument_append_singleton, ← document, ← same]
      rfl

/-- Whether the maps are built anew or kept, they are those of the version and of the latest document. -/
theorem advance (current : MapsCurrent p loader contents state l) {content : Option Content}
    (read : content.isSome = l.isSome) (apart : HashesApart (contents ++ content.toList)) {v : Version}
    (advanced : p.advance state l v content = (state', l')) :
    MapsCurrent p loader (contents ++ content.toList) state' l' ∧ state'.version = some v ∧
      state'.documentHash = content.bind Content.hashsum? := by
  obtain ⟨lastGood, path⟩ := current.lastGood_reload read
  have present : loader.isSome = content.isSome := by
    rw [read, ← Option.isSome_map (f := (·.path)) (x := l), current.path, Option.isSome_map]
  unfold Plan.advance at advanced
  by_cases stale : state.isStale v (content.bind Content.hashsum?)
  · rw [if_pos stale] at advanced
    obtain ⟨rfl, rfl⟩ := Prod.mk.inj advanced
    refine ⟨⟨path, lastGood, ?_, ?_, ?_⟩, rfl, rfl⟩
    · rintro v' ⟨⟩
      rw [← lastGood]
      rfl
    · rintro rfl
      cases content with
      | none => rfl
      | some c => cases present
    · intro some_ _
      cases content with
      | none =>
        rw [Option.isSome_none] at present
        exact absurd (Option.isNone_iff_eq_none.1 (by simpa using present)) some_
      | some c => exact ⟨contents, c, rfl, rfl⟩
  · rw [if_neg stale] at advanced
    obtain ⟨rfl, rfl⟩ := Prod.mk.inj advanced
    simp only [MapState.isStale, Bool.or_eq_true, bne_iff_ne, not_or, ne_eq, Decidable.not_not] at stale
    obtain ⟨version, hash⟩ := stale
    -- Nothing is loaded here; an equal hash sum says that loading would have changed nothing.
    have latest : latestDocument loader (contents ++ content.toList) = latestDocument loader contents := by
      cases content with
      | none => simp
      | some c =>
        obtain ⟨first, rfl⟩ := Option.isSome_iff_exists.1 present
        obtain ⟨earlier, last, rfl, same⟩ := current.hash (by simp) (by simp [version])
        exact latestDocument_of_hashsum?_eq apart (same.symm.trans hash)
    refine ⟨⟨current.path, ?_, ?_, current.absent, ?_⟩, version, hash⟩
    · rw [latest, current.document]
    · intro v' built
      rw [latest, current.maps v' built]
    · intro some_ built
      cases content with
      | none => simpa using current.hash some_ built
      | some c => exact ⟨contents, c, rfl, hash⟩

end MapsCurrent

section Calls

variable {σ : Type}

theorem Plan.Reads.content?_eq {loader : Option Loader} {t : List (Exchange σ)} {content : Option Content}
    (reads : Plan.Reads loader t content) :
    t.findSome? Exchange.content? = content ∧ content.isSome = loader.isSome := by
  cases reads with
  | none => exact ⟨rfl, rfl⟩
  | readable => exact ⟨rfl, rfl⟩
  | unreadable => exact ⟨rfl, rfl⟩

theorem content?_logged (es : List LogEntry) :
    (es.map Exchange.logged).findSome? (Exchange.content? (σ := σ)) = none := by
  rw [List.findSome?_map, List.findSome?_eq_none_iff]
  intro e _
  rfl

/-- Of the exchanges of a refresh only the reading of the document shows a content. -/
theorem content?_refreshed (address : Session → σ) (s : Session) (reply : Except Failure Answer)
    (warned logged : List LogEntry) {loader : Option Loader} {t : List (Exchange σ)}
    {content : Option Content} (reads : Plan.Reads loader t content) :
    (⟨.query (address s) Banner.query, reply⟩ :: (warned.map .logged ++ (t ++ logged.map .logged))).findSome?
      Exchange.content? = content := by
  rw [List.findSome?_cons_of_isNone rfl, List.findSome?_append, List.findSome?_append,
    content?_logged, content?_logged, Option.none_or, Option.or_none, reads.content?_eq.1]

/-- A refresh that succeeds has read a banner, and then the document if there is one. -/
theorem Plan.Refreshes.of_ok {address : Session → σ} {p : Plan} {c : Connection} {l l' : Option Loader}
    {t : List (Exchange σ)} {sample : Option Sample} {state' : MapState}
    (refreshes : Plan.Refreshes address p c l t (.ok sample) state' l') :
    ∃ banner, t.findSome? Exchange.banner? = some (.ok banner) ∧
      (t.findSome? Exchange.content?).isSome = l.isSome ∧
      p.advance c.state l banner.version (t.findSome? Exchange.content?) = (state', l') := by
  cases refreshes with
  | @done reply banner t content _ _ told reads advanced =>
    rw [content?_refreshed address c.session reply _ _ reads]
    refine ⟨banner, ?_, reads.content?_eq.2, advanced⟩
    rw [List.findSome?_cons, Exchange.banner?, if_pos rfl, told]

theorem Plan.Refreshes.of_error {address : Session → σ} {p : Plan} {c : Connection} {l l' : Option Loader}
    {t : List (Exchange σ)} {e : Failure} {state' : MapState}
    (refreshes : Plan.Refreshes address p c l t (.error e) state' l') : state' = c.state ∧ l' = l := by
  cases refreshes with
  | failed => exact ⟨rfl, rfl⟩

end Calls

/-- Refreshes of one connection, one after the other and with nothing else in between. -/
inductive RefreshRun (p : Plan) (c : Connection) (loader : Option Loader) :
    List RefreshCall → MapState → Option Loader → Prop
  | start : RefreshRun p c loader [] c.state loader
  | next {calls state l call state' l'} : RefreshRun p c loader calls state l →
      Runs (p.refresh (world id) { c with state } l) call.exchanges (call.outcome, state', l') →
      RefreshRun p c loader (calls ++ [call]) state' l'

namespace RefreshRun

variable {p : Plan} {c : Connection} {loader l l' : Option Loader} {calls : List RefreshCall}
  {call : RefreshCall} {state state' : MapState}

theorem contents_append_singleton :
    RefreshCall.contents (calls ++ [call]) =
      RefreshCall.contents calls ++ RefreshCall.contents [call] := by
  simp [RefreshCall.contents]

theorem contents_of_ok {sample : Option Sample} (ended : call.outcome = .ok sample) :
    RefreshCall.contents [call] = call.content?.toList := by
  cases read : call.content? <;> simp [RefreshCall.contents, ended, read]

theorem contents_of_error {e : Failure} (ended : call.outcome = .error e) :
    RefreshCall.contents [call] = [] := by
  simp [RefreshCall.contents, ended]

/-- One call keeps the maps current: a call that fails changes nothing, and one that succeeds reads a version. -/
theorem step (current : MapsCurrent p loader (RefreshCall.contents calls) state l)
    (run : Runs (p.refresh (world id) { c with state } l) call.exchanges (call.outcome, state', l'))
    (apart : HashesApart (RefreshCall.contents (calls ++ [call]))) :
    MapsCurrent p loader (RefreshCall.contents (calls ++ [call])) state' l' ∧
      (∀ sample, call.outcome = .ok sample → ∃ banner, call.banner? = some (.ok banner) ∧
        state'.version = some banner.version ∧
        state'.documentHash = call.content?.bind Content.hashsum?) ∧
      ∀ e, call.outcome = .error e → state' = state ∧ l' = l := by
  have refreshes := Plan.runs_refresh.1 run
  rw [contents_append_singleton] at apart ⊢
  cases ended : call.outcome with
  | error e =>
    rw [ended] at refreshes
    rw [contents_of_error ended, List.append_nil]
    obtain ⟨rfl, rfl⟩ := refreshes.of_error
    exact ⟨current, fun _ ok => (by cases ok), fun _ _ => ⟨rfl, rfl⟩⟩
  | ok sample =>
    rw [ended] at refreshes
    rw [contents_of_ok ended] at apart ⊢
    obtain ⟨banner, told, read, advanced⟩ := refreshes.of_ok
    obtain ⟨next, version, hash⟩ := current.advance read apart advanced
    exact ⟨next, fun _ _ => ⟨banner, told, version, hash⟩, fun _ error => (by cases error)⟩

theorem current (run : RefreshRun p c loader calls state l) (fresh : c.state = {})
    (apart : HashesApart (RefreshCall.contents calls)) :
    MapsCurrent p loader (RefreshCall.contents calls) state l := by
  induction run with
  | start =>
    rw [fresh]
    exact mapsCurrent_fresh p loader
  | next _ last ih =>
    have before := apart
    rw [contents_append_singleton] at before
    exact (step (ih before.of_append) last apart).1

/-- Keeping maps is not seen from outside. After each call that succeeds they are those that would be built for the
version read in it and the latest document; a call that fails leaves the maps and the loader as they were. -/
theorem maps_eq_build_of_latest (run : RefreshRun p c loader calls state l) (fresh : c.state = {})
    (last : Runs (p.refresh (world id) { c with state } l) call.exchanges (call.outcome, state', l'))
    (apart : HashesApart (RefreshCall.contents (calls ++ [call]))) :
    (∀ sample, call.outcome = .ok sample → ∃ banner, call.banner? = some (.ok banner) ∧
      state'.version = some banner.version ∧
      state'.documentHash = call.content?.bind Content.hashsum? ∧
      state'.maps = Maps.build p.catalog p.options banner.version
        (latestDocument loader (RefreshCall.contents (calls ++ [call])))) ∧
    ∀ e, call.outcome = .error e → state' = state ∧ l' = l := by
  have before := apart
  rw [contents_append_singleton] at before
  obtain ⟨next, succeeded, failed⟩ := step (run.current fresh before.of_append) last apart
  refine ⟨?_, failed⟩
  intro sample ended
  obtain ⟨banner, told, version, hash⟩ := succeeded sample ended
  exact ⟨banner, told, version, hash, next.maps _ version⟩

/-- Whatever banner a server gives and whatever is read, there is such a refresh. -/
theorem exists_call {reply : Except Failure Answer} {banner : Banner} {t : List (Exchange Session)}
    {content : Option Content} (told : Banner.ofReply reply = .ok banner)
    (reads : Plan.Reads l t content) (advanced : p.advance c.state l banner.version content = (state', l')) :
    ∃ call : RefreshCall, Runs (p.refresh (world id) c l) call.exchanges (call.outcome, state', l') ∧
      call.outcome = .ok (p.versionSample c.labels banner) ∧ call.banner? = some (.ok banner) ∧
      call.content? = content := by
  refine ⟨⟨_, _⟩, Plan.runs_refresh.2 (.done told reads advanced), rfl, ?_, ?_⟩
  · simp only [RefreshCall.banner?, List.findSome?_cons, Exchange.banner?, if_true, told]
  · exact content?_refreshed id c.session reply _ _ reads

/-- First the file is missing and the document of before stays; then the server has a new version and the file is
there, whatever it says. -/
theorem maps_after_upgrade :
    let loader : Option Loader := some { path := "views.yaml", lastGood := some {} }
    let p : Plan := ⟨{}, {}⟩
    let c : Connection := { session := ⟨0, ⟨"host=db", "db:5432"⟩⟩, labels := [] }
    let bytes : ByteArray := ⟨#[112, 58]⟩
    ∃ calls call state l state' l', RefreshRun p c loader calls state l ∧ c.state = {} ∧
      Runs (p.refresh (world id) { c with state } l) call.exchanges (call.outcome, state', l') ∧
      RefreshCall.contents (calls ++ [call]) = [.error .notFound, .ok bytes] ∧
      HashesApart [.error .notFound, .ok bytes] ∧ state'.version = some (.release 11 2 0) ∧
      state'.maps = Maps.build p.catalog p.options (.release 11 2 0)
        (latestDocument loader [.error .notFound, .ok bytes]) := by
  intro loader p c bytes
  let said (text : String) : Except Failure Answer := .ok ⟨["version"], [[.text text]]⟩
  have old : Banner.ofReply (said "PostgreSQL 10.1") = .ok ⟨"PostgreSQL 10.1", .release 10 1 0⟩ := by cbv
  have new : Banner.ofReply (said "PostgreSQL 11.2") = .ok ⟨"PostgreSQL 11.2", .release 11 2 0⟩ := by cbv
  let first := p.advance {} loader (.release 10 1 0) (some (.error .notFound))
  obtain ⟨call₁, run₁, ended₁, _, read₁⟩ :=
    exists_call (p := p) (c := c) (l := loader) old .unreadable (rfl : first = (first.1, first.2))
  let second := p.advance first.1 first.2 (.release 11 2 0) (some (.ok bytes))
  obtain ⟨call₂, run₂, ended₂, told₂, read₂⟩ :=
    exists_call (p := p) (c := { c with state := first.1 }) (l := first.2) new .readable
      (rfl : second = (second.1, second.2))
  have contents : RefreshCall.contents ([call₁] ++ [call₂]) = [.error .notFound, .ok bytes] := by
    simp [RefreshCall.contents, ended₁, ended₂, read₁, read₂]
  have apart : HashesApart [.error .notFound, .ok bytes] := by
    intro a memA b memB hash hashA hashB
    simp only [List.mem_cons, List.not_mem_nil, or_false] at memA memB
    rcases memA with rfl | rfl
    · cases hashA
    · rcases memB with rfl | rfl
      · cases hashB
      · rfl
  have run : RefreshRun p c loader [call₁] first.1 first.2 := .next .start run₁
  obtain ⟨banner, told, version, _, maps⟩ :=
    (run.maps_eq_build_of_latest rfl run₂ (contents ▸ apart)).1 _ ended₂
  rw [told₂] at told
  cases told
  rw [contents] at maps
  exact ⟨_, _, _, _, _, _, run, rfl, run₂, contents, apart, version, maps⟩

end RefreshRun

end PgMetrics
