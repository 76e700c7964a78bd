import PgMetrics.Proofs.Scrape.Operational
import PgMetrics.Proofs.Scrape.Requests
import PgMetrics.Scrape.Loop

namespace PgMetrics

open Dialogue

variable {σ : Type}

/-- The text that a request prints. -/
def Request.text? : Request σ → Option String
  | print text => some text
  | _ => none

/-- What is printed, text after text. -/
def Dialogue.printed (t : List (Exchange σ)) : List String :=
  t.filterMap (·.request.text?)

theorem Dialogue.printed_append (t t' : List (Exchange σ)) : printed (t ++ t') = printed t ++ printed t' :=
  List.filterMap_append ..

namespace Exporter

variable {address : Session → σ} {e e₁ e' : Exporter} {cycles : List (Cycle σ)} {cycle d : Cycle σ}

/-- Nothing is printed as long as a scrape lasts. -/
theorem Scrapes.printed_eq_nil (scrapes : Scrapes address e cycle e') : printed cycle.exchanges = [] := by
  refine List.filterMap_eq_nil_iff.2 fun x member => ?_
  have scraping := e.asks_scrape address _ _ (runs_scrape_iff.2 ⟨_, scrapes⟩) x member
  obtain ⟨request, reply⟩ := x
  cases request <;> first | rfl | cases scraping

theorem Rounds.cons (first : Scrapes address e cycle e₁) (later : Rounds address e₁ cycles e') :
    Rounds address e (cycle :: cycles) e' := by
  induction later with
  | start => exact Rounds.start.next first
  | next _ last ih => exact ih.next last

theorem Scrapes.scrapes_total (scrapes : Scrapes address e cycle e') :
    (cycle.snapshot.operational.filter (·.name == "pg_exporter_scrapes_total")).map (·.value) =
      [Binary64.ofInt e'.scrapes] := by
  cases scrapes with
  | @mk _ _ _ _ _ rs _ e₂ =>
    change (((e₂.count rs).operational rs _).filter _).map _ = _
    unfold operational
    cases (e₂.count rs).documentStatus <;> rfl

/-- The number that the exporter gives to each of its scrapes is how many there were by then. -/
theorem Rounds.scrapes_total (run : Rounds address e cycles e') {k : Nat} (atK : cycles[k]? = some d) :
    (d.snapshot.operational.filter (·.name == "pg_exporter_scrapes_total")).map (·.value) =
      [Binary64.ofInt (e.scrapes + k + 1 : Nat)] := by
  induction run with
  | start => cases atK
  | @next cycles e₁ cycle e' run last ih =>
    obtain earlier | now := Nat.lt_or_ge k cycles.length
    · rw [List.getElem?_append_left earlier] at atK
      exact ih atK
    · rw [List.getElem?_append_right now, List.getElem?_singleton] at atK
      obtain ⟨first, rfl⟩ : k - cycles.length = 0 ∧ cycle = d := by simpa using atK
      obtain rfl : k = cycles.length := by omega
      rw [last.scrapes_total, last.counters.1, run.counters.1]

theorem own_scrapes_total {s : Snapshot} {n : Nat} (few : n < 2 ^ 53)
    (said : (s.operational.filter (·.name == "pg_exporter_scrapes_total")).map (·.value) = [Binary64.ofInt n]) :
    s.own "pg_exporter_scrapes_total" = [some (n : ℚ)] := by
  have numbers : s.own "pg_exporter_scrapes_total" =
      ((s.operational.filter (·.name == "pg_exporter_scrapes_total")).map (·.value)).map
        fun v => (Binary64.ofFloat v).toRat? := by
    rw [List.map_map]
    rfl
  rw [numbers, said, List.map_singleton, Binary64.toRat?_ofNat few]

end Exporter

namespace Loop

variable {address : Session → σ} {l : Loop} {e e' : Exporter} {t : List (Exchange σ)} {done bound n : Nat}

/-- How many scrapes there are to come after those that are done, if they are to end. -/
def remaining (l : Loop) (done : Nat) : Option Nat :=
  l.interval.elim (some 1) fun _ => l.count.map fun n => max 1 (n - done)

theorem remaining_zero (l : Loop) : l.remaining 0 = l.cycles := by
  unfold remaining cycles
  cases l.interval <;> rfl

theorem remaining_of_none (last : l.pauseAfter (done + 1) = none) : l.remaining done = some 1 := by
  unfold pauseAfter at last
  unfold remaining
  cases interval : l.interval with
  | none => rfl
  | some d =>
    rw [interval] at last
    cases counted : l.count with
    | none => simp [counted] at last
    | some n =>
      have few : n ≤ done + 1 := by simpa [counted] using last
      simp only [Option.elim_some, Option.map_some, Option.some.injEq]
      omega

theorem remaining_of_some {d : Duration} (again : l.pauseAfter (done + 1) = some d) :
    l.remaining done = (l.remaining (done + 1)).map (· + 1) := by
  obtain ⟨given, more⟩ := Option.filter_eq_some_iff.1 again
  unfold remaining
  rw [given]
  cases counted : l.count with
  | none => rfl
  | some n =>
    have many : done + 1 < n := by simpa [counted] using more
    simp only [Option.elim_some, Option.map_some, Option.some.injEq]
    omega

/-- The loop is the same with any bound that it does not reach. -/
theorem runFrom_eq (left : l.remaining done = some n) (enough : n ≤ bound) (e : Exporter) :
    l.runFrom (world address) done bound e = l.runFrom (world address) done n e := by
  induction bound generalizing done n e with
  | zero => rw [Nat.le_zero.1 enough]
  | succ bound ih =>
    cases again : l.pauseAfter (done + 1) with
    | none =>
      obtain rfl : 1 = n := Option.some.inj ((remaining_of_none again).symm.trans left)
      simp only [runFrom, again]
    | some d =>
      rw [remaining_of_some again, Option.map_eq_some_iff] at left
      obtain ⟨n, left, rfl⟩ := left
      simp only [runFrom, again, ih left (Nat.le_of_succ_le_succ enough)]

/-- A scrape is printed once it is done. -/
theorem runs_cycle (run : Runs (l.cycle (world address) e) t e') :
    ∃ d, Exporter.Scrapes address e d e' ∧ printed t = [l.format.print l.colors d.snapshot] := by
  obtain ⟨t₁, ⟨s, e₁⟩, _, scraped, printing, rfl⟩ := runs_bind.1 run
  obtain ⟨xs, scrapes⟩ := Exporter.runs_scrape_iff.1 scraped
  obtain ⟨_, _, _, shown, ended, rfl⟩ := runs_bind.1 printing
  obtain ⟨rfl, rfl⟩ := runs_pure.1 ended
  refine ⟨_, scrapes, ?_⟩
  rw [runs_request.1 shown, printed_append, scrapes.printed_eq_nil]
  rfl

/-- What comes of the scrapes after those that are done. -/
theorem runs_runFrom (run : Runs (l.runFrom (world address) done bound e) t e') :
    ∃ cycles, Exporter.Rounds address e cycles e' ∧ cycles.length = (l.remaining done).elim bound (min bound) ∧
      printed t = cycles.map fun d => l.format.print l.colors d.snapshot := by
  induction bound generalizing done e t with
  | zero =>
    obtain ⟨rfl, rfl⟩ := runs_pure.1 run
    refine ⟨[], .start, ?_, rfl⟩
    cases l.remaining done <;> simp
  | succ bound ih =>
    obtain ⟨t₁, e₁, t₂, first, later, rfl⟩ := runs_bind.1 run
    obtain ⟨d, scrapes, shown⟩ := runs_cycle first
    cases again : l.pauseAfter (done + 1) with
    | none =>
      simp only [again] at later
      obtain ⟨rfl, rfl⟩ := runs_pure.1 later
      refine ⟨[d], Exporter.Rounds.start.next scrapes, ?_, by simpa using shown⟩
      rw [remaining_of_none again]
      simp
    | some pause =>
      simp only [again] at later
      obtain ⟨_, _, t₃, paused, rest, rfl⟩ := runs_bind.1 later
      obtain ⟨cycles, rounds, many, texts⟩ := ih rest
      -- With this scrape before them, the others are as many as were left after it, and the pause prints nothing.
      refine ⟨d :: cycles, .cons scrapes rounds, ?_, ?_⟩
      · rw [List.length_cons, many, remaining_of_some again]
        cases l.remaining (done + 1) <;> simp [Nat.add_min_add_right]
      · rw [printed_append, printed_append, shown, texts, runs_request.1 paused]
        rfl

/-- With no interval there is one scrape, with an interval and a count there are as many as the count says but one at
least, and with an interval alone there are as many as one waits for. The loop ends after them by itself. What it
prints is the report of each, in their order, and in each the exporter has counted one scrape more. -/
theorem prints_each_cycle (address : Session → σ) (l : Loop) (e : Exporter)
    (behaviour : List (Exchange σ) → (r : Request σ) → r.Reply) (n bound : Nat)
    (budget : l.interval = none ∧ n = 1 ∨ ∃ d, l.interval = some d ∧
      (l.count = none ∧ n = bound ∨ ∃ count, l.count = some count ∧ n = max 1 count))
    (enough : n ≤ bound) :
    let loop := l.run (world address) bound e
    l.cycles.getD bound = n ∧ loop = l.run (world address) n e ∧
    ∃ cycles, Exporter.Rounds address e cycles (play behaviour [] loop).2 ∧ cycles.length = n ∧
      printed (play behaviour [] loop).1 = cycles.map (fun d =>
        match l.format with
        | .console => Console.text l.colors d.snapshot
        | .json => JsonReport.text d.snapshot ++ "\n") ∧
      ∀ k d, cycles[k]? = some d →
        (d.snapshot.operational.filter (·.name == "pg_exporter_scrapes_total")).map (·.value) =
          [Binary64.ofInt (e.scrapes + k + 1 : Nat)] ∧
        (e.scrapes + k + 1 < 2 ^ 53 →
          d.snapshot.own "pg_exporter_scrapes_total" = [some ((e.scrapes + k + 1 : Nat) : ℚ)]) := by
  intro loop
  have left : l.cycles = some n ∨ l.cycles = none ∧ n = bound := by
    unfold cycles
    obtain ⟨single, rfl⟩ | ⟨d, repeated, ⟨endless, rfl⟩ | ⟨count, given, rfl⟩⟩ := budget
    · exact .inl (by rw [single])
    · exact .inr (by rw [repeated, endless]; exact ⟨rfl, rfl⟩)
    · exact .inl (by rw [repeated, given]; rfl)
  obtain ⟨cycles, rounds, many, texts⟩ := runs_runFrom (runs_play behaviour [] loop)
  rw [remaining_zero] at many
  refine ⟨?_, ?_, cycles, rounds, ?_, texts, ?_⟩
  · obtain ends | ⟨endless, rfl⟩ := left
    · rw [ends, Option.getD_some]
    · rw [endless, Option.getD_none]
  · obtain ends | ⟨-, rfl⟩ := left
    · exact runFrom_eq (l.remaining_zero.trans ends) enough e
    · rfl
  · obtain ends | ⟨endless, rfl⟩ := left
    · rw [many, ends]
      exact Nat.min_eq_right enough
    · rw [many, endless]
      rfl
  · intro k d atK
    have said := rounds.scrapes_total atK
    exact ⟨said, fun few => Exporter.own_scrapes_total few said⟩

/-- An exporter that has made five scrapes makes two more, though there might be seven. -/
theorem prints_two_cycles :
    let l : Loop := { format := .json, colors := false, interval := some ⟨1, 0⟩, count := some 2 }
    let e : Exporter := { Exporter.of {} {} ["host=a"] with scrapes := 5 }
    let behaviour (past : List (Exchange String)) :=
      Request.replyOf (fun _ => if past.length < 4 then .error (.of (.database .unreachable)) else .ok ())
        (fun _ _ => .ok ⟨[], []⟩) (.error .notFound)
    ∃ first second : Cycle String,
      printed (play behaviour [] (l.run (world Session.dsn) 7 e)).1 =
        [JsonReport.text first.snapshot ++ "\n", JsonReport.text second.snapshot ++ "\n"] ∧
      first.snapshot.own "pg_exporter_scrapes_total" = [some 6] ∧
      second.snapshot.own "pg_exporter_scrapes_total" = [some 7] := by
  intro l e behaviour
  obtain ⟨-, -, cycles, -, two, texts, counted⟩ :=
    prints_each_cycle Session.dsn l e behaviour 2 7 (.inr ⟨⟨1, 0⟩, rfl, .inr ⟨2, rfl, rfl⟩⟩) (by decide)
  obtain ⟨first, second, rfl⟩ := List.length_eq_two.1 two
  have six := (counted 0 first rfl).2 (by decide)
  have seven := (counted 1 second rfl).2 (by decide)
  exact ⟨first, second, texts, by rw [six]; norm_num [e], by rw [seven]; norm_num [e]⟩

end Loop

end PgMetrics
