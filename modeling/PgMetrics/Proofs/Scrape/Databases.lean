import PgMetrics.Proofs.Dsn.Database
import PgMetrics.Proofs.Scrape.Cycles

namespace PgMetrics.Discovery

open Dialogue Dsn

variable {σ : Type} {address : Session → σ} {r r' : Registry} {t : List (Exchange σ)} {exclude found : List String}

/-- A single connection string stands for itself, and for the databases in the answer of its server if there is one. -/
theorem runs_discover_single {base : String}
    (run : Runs (discover (world address) r exclude [base]) t (found, r')) :
    found = [base] ∨ ∃ s a, ⟨.query s query, .ok a⟩ ∈ t ∧
      found = distinct [] (base :: derive base exclude (names a)) := by
  obtain ⟨_, ⟨all, r₁⟩, _, expanding, ended, rfl⟩ := runs_bind.1 run
  obtain ⟨rfl, same⟩ := runs_pure.1 ended
  cases same
  obtain ⟨_, ⟨first, r₂⟩, _, expanded, rest, rfl⟩ := runs_bind.1 expanding
  obtain ⟨_, ⟨others, r₃⟩, _, later, ended', rfl⟩ := runs_bind.1 rest
  obtain ⟨rfl, same⟩ := runs_pure.1 later
  cases same
  obtain ⟨rfl, same⟩ := runs_pure.1 ended'
  cases same
  obtain ⟨_, _, lists, rfl, rfl⟩ := runs_expand expanded
  cases lists with
  | unconnected => exact .inl rfl
  | @asked _ c reply _ _ =>
    cases reply with
    | error e => exact .inl rfl
    | ok a => exact .inr ⟨address c.session, a, by simp, by rw [List.append_nil]; rfl⟩

theorem mem_distinct {seen ss : List String} {s : String} : s ∈ distinct seen ss ↔ s ∈ ss ∧ s ∉ seen := by
  induction ss generalizing seen with
  | nil => simp [distinct]
  | cons x ss ih =>
    unfold distinct
    split
    · rename_i known
      rw [ih, List.mem_cons]
      constructor
      · exact fun ⟨member, new⟩ => ⟨.inr member, new⟩
      · rintro ⟨rfl | member, new⟩
        · exact absurd known new
        · exact ⟨member, new⟩
    · rename_i new
      rw [List.mem_cons, ih, List.mem_cons, List.mem_cons, not_or]
      by_cases same : s = x
      · subst same
        simp [new]
      · simp [same]

section Place

variable {p : DatabasePlace} {c : ConnectionSettings}

theorem derive_fill (sole : p.Sole c) (name : String) (listed : List String) :
    derive (p.fill name) exclude listed = (listed.filter (· ∉ exclude)).map p.fill := by
  induction listed with
  | nil => rfl
  | cons other listed ih =>
    unfold derive
    rw [List.filter_cons]
    split
    · rename_i excluded
      rw [if_neg (by simpa using excluded)]
      exact ih
    · rename_i kept
      rw [sole.selectDatabase_fill name other, if_pos (by simpa using kept), List.map_cons, ih]

/-- For a connection string that names its database where no other setting does, and in the general form, what
discovery finds selects that database and those of the answer that are not excluded, and each of them once. -/
theorem discover_databases_once (sole : p.Sole c) {name : String}
    (run : Runs (discover (world address) r exclude [p.fill name]) t (found, r')) :
    (found.Pairwise fun a b => database? a ≠ database? b) ∧
      (found = [p.fill name] ∨ ∃ s a, ⟨.query s query, .ok a⟩ ∈ t ∧
        ∀ d, d ∈ found.map database? ↔ ∃ other, d = some other ∧
          (other = name ∨ other ∈ names a ∧ other ∉ exclude)) := by
  obtain rfl | ⟨s, a, answered, rfl⟩ := runs_discover_single run
  · exact ⟨List.pairwise_singleton _ _, .inl rfl⟩
  · have ofPlace {dsn : String} :
        dsn ∈ distinct [] (p.fill name :: derive (p.fill name) exclude (names a)) ↔
          ∃ other, dsn = p.fill other ∧ (other = name ∨ other ∈ names a ∧ other ∉ exclude) := by
      rw [mem_distinct, derive_fill sole]
      simp only [List.mem_cons, List.mem_map, List.mem_filter, decide_eq_true_eq, List.not_mem_nil,
        not_false_eq_true, and_true]
      constructor
      · rintro (rfl | ⟨other, kept, rfl⟩)
        · exact ⟨name, rfl, .inl rfl⟩
        · exact ⟨other, rfl, .inr kept⟩
      · rintro ⟨other, rfl, rfl | kept⟩
        · exact .inl rfl
        · exact .inr ⟨other, kept, rfl⟩
    refine ⟨?_, .inr ⟨s, a, answered, ?_⟩⟩
    · refine (distinct_nodup [] _).1.imp_of_mem ?_
      intro x y memX memY ne same
      obtain ⟨n, rfl, -⟩ := ofPlace.1 memX
      obtain ⟨m, rfl, -⟩ := ofPlace.1 memY
      rw [sole.database?_fill, sole.database?_fill] at same
      exact ne (congrArg p.fill (Option.some.inj same))
    · intro d
      rw [List.mem_map]
      constructor
      · rintro ⟨dsn, member, rfl⟩
        obtain ⟨other, rfl, kept⟩ := ofPlace.1 member
        exact ⟨other, sole.database?_fill other, kept⟩
      · rintro ⟨other, rfl, kept⟩
        exact ⟨p.fill other, ofPlace.2 ⟨other, rfl, kept⟩, sole.database?_fill other⟩

end Place

theorem discovered_beside_quoted_name :
    let p : DatabasePlace := ⟨"host=db ".toList, " user=me".toList⟩
    let replies := Request.replyOf (fun (_ : String) => .ok ())
      (fun _ _ => .ok ⟨["datname"], [[.text "my app"], [.text "old"], [.text "orders"]]⟩) (.error .notFound)
    let run := play (fun _ => replies) [] (discover (world Session.dsn) {} ["old"] [p.fill "my app"])
    p.fill "my app" = "host=db dbname='my app' user=me" ∧ run.2.1 = [p.fill "my app", p.fill "orders"] ∧
      run.2.1.Pairwise fun a b => database? a ≠ database? b := by
  intro p replies run
  have keyValue : url? (String.ofList "host=db ".toList) = none := by decide +kernel
  have quiet : Unassigned databaseKey "host=db ".toList := by decide +kernel
  have apart : ∀ x, "host=db ".toList.getLast? = some x → Text.isBlank x = true := by
    rintro x ⟨⟩
    decide
  have ends : EndsValue " user=me".toList := by
    rintro x ⟨⟩
    decide
  have host : KeyValue.next "host=db ".toList = some (some ("host".toList, "db".toList, [' '])) := by decide
  have user : KeyValue.next " user=me".toList = some (some ("user".toList, "me".toList, [])) := by decide
  have set_ : ({} : ConnectionSettings).set (String.ofList "host".toList) (String.ofList "db".toList) =
      some { hosts := [.name "db"] } := by decide +kernel
  have fits : (KeyValue.readFrom { hosts := [.name "db"] } " user=me".toList).isSome := by decide +kernel
  have none_ : KeyValue.NamesNone " user=me".toList :=
    .setting user (by decide) (.finished fun s => by simp [KeyValue.next, KeyValue.skipBlanks])
  have blank : ∀ x ∈ [' '], Text.isBlank x = true := List.all_eq_true.1 (by decide)
  have read : KeyValue.ReadsWhole {} "host=db ".toList { hosts := [.name "db"] } :=
    .setting host (by simp) set_ (.blank blank)
  have sole : p.Sole { hosts := [.name "db"] } := ⟨keyValue, apart, ends, read, quiet, none_, fits⟩
  have written : p.fill "my app" = "host=db dbname='my app' user=me" := by decide +kernel
  have all : run.2.1 = [p.fill "my app", p.fill "orders"] := by decide +kernel
  have runs : Runs (discover (world Session.dsn) {} ["old"] [p.fill "my app"]) run.1 run.2 := runs_play _ _ _
  clear_value run
  obtain ⟨t, found, r⟩ := run
  exact ⟨written, all, (discover_databases_once sole runs).1⟩

/-- Ways to write a connection string for which discovery adds another one for the same database. -/
theorem database_discovered_twice :
    let replies := Request.replyOf (fun (_ : String) => .ok ()) (fun _ _ => .ok ⟨["datname"], [[.text "app"]]⟩)
      (.error .notFound)
    let run (base : String) := play (fun _ => replies) [] (discover (world Session.dsn) {} [] [base])
    let Twice (base : String) := database? base = some "app" ∧
      Runs (discover (world Session.dsn) {} [] [base]) (run base).1 (run base).2 ∧
      (run base).2.1.map database? = [some "app", some "app"]
    Twice "host=db dbname=old dbname=app" ∧ Twice "host=db dbname='app'" ∧ Twice "host=db dbname = app" ∧
      Twice "postgresql://db/?dbname=app" := by
  intro replies run Twice
  have runs (base : String) : Runs (discover (world Session.dsn) {} [] [base]) (run base).1 (run base).2 :=
    runs_play _ _ _
  exact ⟨⟨by decide +kernel, runs _, by decide +kernel⟩, ⟨by decide +kernel, runs _, by decide +kernel⟩,
    ⟨by decide +kernel, runs _, by decide +kernel⟩, by decide +kernel, runs _, by decide +kernel⟩

end PgMetrics.Discovery
