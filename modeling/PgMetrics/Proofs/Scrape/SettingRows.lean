import PgMetrics.Proofs.Scrape.Cells

namespace PgMetrics

open Dialogue

variable {σ : Type}

namespace Setting

/-- The units that settings come in, each with the unit that is reported and how many of those it is. -/
def units : List (String × String × Float) :=
  [("ms", "seconds", 1.0 / 1000.0), ("s", "seconds", 1.0), ("min", "seconds", 60.0), ("h", "seconds", 3600.0),
   ("d", "seconds", 86400.0), ("B", "bytes", 1.0), ("kB", "bytes", 1024.0), ("MB", "bytes", 1048576.0),
   ("GB", "bytes", 1073741824.0), ("TB", "bytes", 1099511627776.0), ("8kB", "bytes", 8192.0),
   ("16kB", "bytes", 16384.0), ("32kB", "bytes", 32768.0), ("16MB", "bytes", 16777216.0),
   ("32MB", "bytes", 33554432.0), ("64MB", "bytes", 67108864.0)]

def IsNumeric (s : Setting) : Prop :=
  s.type = "integer" ∨ s.type = "real"

/-- The number that a setting is, blanks around it aside. -/
def number? (s : Setting) : Option Float :=
  Decimal.read (Text.trimChars s.setting.toList)

/-- The name of the gauge, unless a unit is put behind it. -/
def gaugeName (s : Setting) : String :=
  "pg_settings_" ++ s.metricName

/-- There is no gauge for a setting of a type that is none of the three, nor for one of a number that cannot be read or
has a unit that is not known. -/
def Fails (s : Setting) : Prop :=
  s.type ∉ ["bool", "integer", "real"] ∨
    s.IsNumeric ∧ (s.number? = none ∨ s.unit ≠ "" ∧ s.unit ∉ units.map (·.1))

/-- What a setting gives, a sample or a value error. -/
inductive Gives (s : Setting) (labels : Labels) : Sample ⊕ ValueError → Prop
  | switch : s.type = "bool" →
      Gives s labels (.inl ⟨s.gaugeName, s.description, .gauge, labels, Sample.flag (s.setting == "on")⟩)
  | bare {x} : s.IsNumeric → s.number? = some x → s.unit = "" →
      Gives s labels (.inl ⟨s.gaugeName, s.description, .gauge, labels, x⟩)
  | measured {x word factor} : s.IsNumeric → s.number? = some x → s.unit ≠ "" →
      units.lookup s.unit = some (word, factor) →
      Gives s labels (.inl ⟨s.gaugeName ++ "_" ++ word, s.description ++ " [Units converted to " ++ word ++ ".]",
        .gauge, labels, scale factor x⟩)
  | otherType : s.type ∉ ["bool", "integer", "real"] →
      Gives s labels (.inr ⟨"pg_settings", s.name, .unparsable s.type⟩)
  | noNumber : s.IsNumeric → s.number? = none →
      Gives s labels (.inr ⟨"pg_settings", s.name, .unparsable s.setting⟩)
  | otherUnit {x} : s.IsNumeric → s.number? = some x → s.unit ≠ "" → units.lookup s.unit = none →
      Gives s labels (.inr ⟨"pg_settings", s.name, .unparsable ("unit '" ++ s.unit ++ "'")⟩)

/-- What is to be said of the entry of a setting. -/
structure Told (s : Setting) (labels : Labels) (entry : Sample ⊕ ValueError) : Prop where
  gives : s.Gives labels entry
  failed : entry.isRight = true ↔ s.Fails
  error : ∀ e, entry = .inr e → e.view = "pg_settings" ∧ e.column = s.name
  measured : ∀ x, entry = .inl x → s.IsNumeric → s.unit ≠ "" → ∃ word ∈ ["seconds", "bytes"],
    x.name = s.gaugeName ++ "_" ++ word ∧ x.help = s.description ++ " [Units converted to " ++ word ++ ".]"
  bare : ∀ x, entry = .inl x → ¬ (s.IsNumeric ∧ s.unit ≠ "") → x.name = s.gaugeName ∧ x.help = s.description

variable {s : Setting} {labels : Labels} {entry entry' : Sample ⊕ ValueError}

theorem word_of_lookup {unit word : String} {factor : Float} (known : units.lookup unit = some (word, factor)) :
    word ∈ ["seconds", "bytes"] := by
  have words : ∀ p ∈ units, p.2.1 ∈ ["seconds", "bytes"] := by
    simp [units]
  obtain ⟨_, _, split, -⟩ := List.lookup_eq_some_iff.1 known
  exact words (unit, word, factor) (by simp [split])

theorem lookup_units_eq_none_iff {unit : String} : units.lookup unit = none ↔ unit ∉ units.map (·.1) := by
  rw [List.lookup_eq_none_iff]
  constructor
  · intro other known
    obtain ⟨p, inUnits, rfl⟩ := List.mem_map.1 known
    simpa using other p inUnits
  · intro other p inUnits
    have differs : unit ≠ p.1 := fun same => other (List.mem_map.2 ⟨p, inUnits, same.symm⟩)
    simpa using differs

theorem factor?_eq (unit : String) : factor? unit = units.lookup unit := by
  unfold factor?
  split
  case h_17 =>
    have other : unit ∉ units.map (·.1) := by
      simp_all [units]
    exact (lookup_units_eq_none_iff.2 other).symm
  all_goals rfl

theorem parseNumber_eq (s : Setting) : Cell.parseNumber s.setting =
    match s.number? with
    | some x => .ok x
    | none => .error (.unparsable s.setting) := rfl

theorem IsNumeric.mem (numeric : s.IsNumeric) : s.type ∈ ["bool", "integer", "real"] := by
  obtain same | same := numeric <;> simp [same]

theorem IsNumeric.ne_bool (numeric : s.IsNumeric) : s.type ≠ "bool" := by
  obtain same | same := numeric <;> simp [same]

theorem exists_gives (s : Setting) (labels : Labels) :
    ∃ entry, s.Gives labels entry ∧ View.Books (Settings.collectSetting labels s) [some entry] := by
  unfold Settings.collectSetting sample
  by_cases switch : s.type = "bool"
  · rw [if_pos switch]
    exact ⟨_, .switch switch, rfl, rfl⟩
  rw [if_neg switch]
  by_cases numeric : s.type = "integer" ∨ s.type = "real"
  · rw [if_pos numeric, normalize, parseNumber_eq]
    cases number : s.number? with
    | none => exact ⟨_, .noNumber numeric number, rfl, rfl⟩
    | some x =>
      by_cases empty : s.unit = ""
      · simp only [if_pos empty]
        exact ⟨_, .bare numeric number empty, rfl, rfl⟩
      · simp only [if_neg empty, factor?_eq]
        cases known : units.lookup s.unit with
        | none => exact ⟨_, .otherUnit numeric number empty known, rfl, rfl⟩
        | some p =>
          obtain ⟨word, factor⟩ := p
          exact ⟨_, .measured numeric number empty known, rfl, rfl⟩
  · rw [if_neg numeric]
    refine ⟨_, .otherType ?_, rfl, rfl⟩
    simp only [List.mem_cons, List.not_mem_nil, or_false, not_or]
    exact ⟨switch, not_or.1 numeric⟩

theorem Gives.isRight_iff (gives : s.Gives labels entry) : entry.isRight = true ↔ s.Fails := by
  cases gives with
  | switch switch =>
    refine iff_of_false (by simp) ?_
    rintro (other | ⟨numeric, -⟩)
    · exact other (by simp [switch])
    · exact numeric.ne_bool switch
  | bare numeric number empty =>
    refine iff_of_false (by simp) ?_
    rintro (other | ⟨-, none | ⟨unit, -⟩⟩)
    · exact other numeric.mem
    · cases number.symm.trans none
    · exact unit empty
  | measured numeric number _ known =>
    refine iff_of_false (by simp) ?_
    rintro (other | ⟨-, none | ⟨-, unknown⟩⟩)
    · exact other numeric.mem
    · cases number.symm.trans none
    · cases known.symm.trans (lookup_units_eq_none_iff.2 unknown)
  | otherType other => exact iff_of_true rfl (.inl other)
  | noNumber numeric none => exact iff_of_true rfl (.inr ⟨numeric, .inl none⟩)
  | otherUnit numeric _ unit unknown =>
    exact iff_of_true rfl (.inr ⟨numeric, .inr ⟨unit, lookup_units_eq_none_iff.1 unknown⟩⟩)

theorem Gives.told (gives : s.Gives labels entry) : s.Told labels entry where
  gives := gives
  failed := gives.isRight_iff
  error := by
    rintro e rfl
    cases gives <;> exact ⟨rfl, rfl⟩
  measured := by
    rintro x rfl numeric unit
    cases gives with
    | switch switch => exact absurd switch numeric.ne_bool
    | bare _ _ empty => exact absurd empty unit
    | measured _ _ _ known => exact ⟨_, word_of_lookup known, rfl, rfl⟩
  bare := by
    rintro x rfl plain
    cases gives with
    | switch => exact ⟨rfl, rfl⟩
    | bare => exact ⟨rfl, rfl⟩
    | measured numeric _ unit _ => exact absurd ⟨numeric, unit⟩ plain

/-- A setting gives one thing. -/
theorem Gives.unique (gives : s.Gives labels entry) (gives' : s.Gives labels entry') : entry = entry' := by
  cases gives <;> cases gives' <;> simp_all [IsNumeric]

end Setting

namespace Settings

/-- The entries of rows: one for each, in their order. -/
def Entries (labels : Labels) (rows : List (List Cell)) (entries : List (Sample ⊕ ValueError)) : Prop :=
  List.Forall₂ (fun row entry => ∃ s, ofRow? row = some s ∧ s.Told labels entry) rows entries

theorem Entries.unique {labels : Labels} {rows : List (List Cell)} {entries entries' : List (Sample ⊕ ValueError)}
    (tells : Entries labels rows entries) (tells' : Entries labels rows entries') : entries = entries' := by
  have unique : Relator.RightUnique fun (row : List Cell) (entry : Sample ⊕ ValueError) =>
      ∃ s, ofRow? row = some s ∧ s.Told labels entry := by
    rintro row entry entry' ⟨s, read, told⟩ ⟨s', read', told'⟩
    obtain rfl := Option.some.inj (read.symm.trans read')
    exact told.gives.unique told'.gives
  exact unique.forall₂ tells tells'

variable {labels : Labels} {row : List Cell} {rows : List (List Cell)}

/-- Rows of five cells give their entries. -/
theorem collectRows_of_fit (fit : ∀ row ∈ rows, row.length = 5) : (collectRows labels rows).failure = none ∧
    ∃ entries, Entries labels rows entries ∧ View.Books (collectRows labels rows) (entries.map some) := by
  induction rows with
  | nil => exact ⟨rfl, [], .nil, rfl, rfl⟩
  | cons row rows ih =>
    obtain ⟨fits, others⟩ := List.forall_mem_cons.1 fit
    obtain ⟨failure, entries, tells, books⟩ := ih others
    obtain ⟨s, read⟩ := exists_ofRow? fits
    obtain ⟨entry, gives, first⟩ := s.exists_gives labels
    simp only [collectRows, read, failure]
    refine ⟨?_, entry :: entries, .cons ⟨s, read, gives.told⟩ tells, first.append books⟩
    rw [collectSetting_append_failure, failure]

/-- The first row of another width fails all rows. -/
theorem collectRows_of_misfit (misfit : rows.find? (·.length != 5) = some row) :
    ∃ log, collectRows labels rows = { failure := some (.of (.settingsRow row.length)), log } := by
  induction rows with
  | nil => cases misfit
  | cons first rows ih =>
    by_cases fits : first.length = 5
    · obtain ⟨s, read⟩ := exists_ofRow? fits
      rw [List.find?_cons_of_neg (by simp [fits])] at misfit
      obtain ⟨log, rest⟩ := ih misfit
      simp only [collectRows, read, rest]
      exact ⟨_, rfl⟩
    · rw [List.find?_cons_of_pos (by simp [fits])] at misfit
      obtain rfl := Option.some.inj misfit
      rw [collectRows, (ofRow?_eq_none_iff first).2 fits]
      exact ⟨[], rfl⟩

theorem length_left_add_length_right {α β : Type} (entries : List (α ⊕ β)) :
    (entries.filterMap Sum.getLeft?).length + (entries.filterMap Sum.getRight?).length = entries.length := by
  induction entries with
  | nil => rfl
  | cons entry entries ih =>
    cases entry <;> simp [List.filterMap_cons] <;> omega

end Settings

namespace Exporter

/-- Reading the settings from an answer whose rows all have five cells leaves what is in the report, and behind it an
entry for each row. A row of another width leaves the report with a failure and nothing else. -/
theorem settings_row_by_row (address : Session → σ) (c : Connection) (r : TargetReport) (a : Answer) :
    (∃ t r', Runs (scrapeSettings (world address) c r) (⟨.query (address c.session) Settings.query, .ok a⟩ :: t) r') ∧
    ∀ t r', Runs (scrapeSettings (world address) c r) (⟨.query (address c.session) Settings.query, .ok a⟩ :: t) r' →
      let found := Settings.collect c.labels (.ok a)
      match a.rows.find? (·.length != 5) with
      | none => found.failure = none ∧ found.samples.length + found.valueErrors.length = a.rows.length ∧
          ∃! entries, Settings.Entries c.labels a.rows entries ∧
            r' = { r with
              samples := r.samples ++ entries.filterMap Sum.getLeft?
              valueErrors := r.valueErrors ++ entries.filterMap Sum.getRight? }
      | some row => found.failure = some (.of (.settingsRow row.length)) ∧
          r' = { r with viewFailures := r.viewFailures ++ [⟨"pg_settings", .of (.settingsRow row.length)⟩] } := by
  rw [scrapeSettings_eq_read]
  refine ⟨⟨_, _, Source.runs_read.2 ⟨.ok a, rfl, rfl⟩⟩, ?_⟩
  intro t r' run found
  obtain ⟨outcome, exchanges, rfl⟩ := Source.runs_read.1 run
  obtain ⟨asked, rfl⟩ := List.cons.inj exchanges
  obtain rfl : .ok a = outcome := by
    cases asked
    rfl
  rw [TargetReport.withParts_cons, TargetReport.withParts_nil]
  have collected : found = Settings.collectRows c.labels a.rows := rfl
  have added : r.add (Source.settings c.labels).name ((Source.settings c.labels).collect (.ok a)) =
    r.add "pg_settings" found := rfl
  rw [Part.collected, added, collected]
  split
  · rename_i none
    have fit : ∀ row ∈ a.rows, row.length = 5 := by
      simpa using none
    obtain ⟨failure, entries, tells, samples, valueErrors⟩ := Settings.collectRows_of_fit fit
    rw [List.filterMap_map] at samples valueErrors
    refine ⟨failure, ?_, entries, ⟨tells, ?_⟩, fun other told => told.1.unique tells⟩
    · rw [samples, valueErrors, tells.length_eq]
      exact Settings.length_left_add_length_right entries
    · rw [TargetReport.add, failure, samples, valueErrors]
      simp
  · rename_i row misfit
    obtain ⟨log, failed⟩ := Settings.collectRows_of_misfit misfit
    rw [failed]
    refine ⟨rfl, ?_⟩
    simp [TargetReport.add]

/-- Two settings that are converted, with a switch before them and three that fail behind, and the same with a row that
is cut short. -/
theorem settings_with_and_without_short_row :
    let row (name setting unit type : String) : List Cell :=
      [.text name, .text setting, .text unit, .text "About it.", .text type]
    let rows := [row "rds.ssl" "on" "" "bool", row "idle" "-1" "d" "integer", row "pool" " 17 " "8kB" "integer",
      row "cost" "lots" "" "real", row "age" "10" "weeks" "integer", row "mode" "on" "" "enum"]
    let whole : Answer := ⟨["name", "setting", "coalesce", "short_desc", "vartype"], rows⟩
    let short : Answer := { whole with rows := rows ++ [[.text "late", .text "on"]] ++ rows }
    let c : Connection := { session := ⟨0, ⟨"host=db", "db:5432"⟩⟩, labels := [("server", "db:5432")], state := {} }
    let read := scrapeSettings (world Session.target) c { target := "host=db" }
    (∃ t r', Runs read (⟨.query ⟨"host=db", "db:5432"⟩ Settings.query, .ok whole⟩ :: t) r' ∧
      r'.samples.map (fun s => (s.name, s.help)) =
        [("pg_settings_rds_ssl", "About it."),
          ("pg_settings_idle_seconds", "About it. [Units converted to seconds.]"),
          ("pg_settings_pool_bytes", "About it. [Units converted to bytes.]")] ∧
      r'.valueErrors = [⟨"pg_settings", "cost", .unparsable "lots"⟩,
        ⟨"pg_settings", "age", .unparsable "unit 'weeks'"⟩, ⟨"pg_settings", "mode", .unparsable "enum"⟩] ∧
      r'.viewFailures = [] ∧ ∃ entries, Settings.Entries c.labels rows entries ∧ entries.length = 6) ∧
    ∃ t r', Runs read (⟨.query ⟨"host=db", "db:5432"⟩ Settings.query, .ok short⟩ :: t) r' ∧
      r' = { target := "host=db", viewFailures := [⟨"pg_settings", .of (.settingsRow 2)⟩] } := by
  intro row rows whole short c read
  let source := Source.settings c.labels
  let r : TargetReport := { target := "host=db" }
  have run (a : Answer) : Runs (source.read (world Session.target) c r) (Part.exchanges Session.target c ⟨source, .ok a⟩)
      (r.withParts [⟨source, .ok a⟩]) := Source.runs_read.2 ⟨.ok a, rfl, rfl⟩
  constructor
  · have told := (settings_row_by_row Session.target c r whole).2 _ _ (run whole)
    obtain ⟨-, -, entries, ⟨tells, -⟩, -⟩ := told
    exact ⟨_, _, run whole, by decide +kernel, by decide +kernel, by decide +kernel, entries, tells,
      tells.length_eq.symm⟩
  · have told := (settings_row_by_row Session.target c r short).2 _ _ (run short)
    exact ⟨_, _, run short, told.2⟩

end Exporter

end PgMetrics
