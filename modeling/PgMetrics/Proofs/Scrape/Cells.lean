import Mathlib.Data.List.Forall2
import PgMetrics.Proofs.Scrape.Sources

namespace PgMetrics

open Dialogue

variable {σ : Type}

namespace Answer

/-- How many rows come before the first whose width is not that of the columns. -/
def fitting (a : Answer) : Nat :=
  a.rows.findIdx (·.length != a.columns.length)

/-- The cells of those rows, row after row, each with its row and the name of its column. -/
def cells (a : Answer) : List (List Cell × String × Cell) :=
  (a.rows.take a.fitting).flatMap fun row => (a.columns.zip row).map (row, ·)

/-- The text that a row has in the first column of a name, empty if there is no such column or no text in it. -/
def textIn (a : Answer) (row : List Cell) (name : String) : String :=
  match ((a.columns.idxOf? name).bind (row[·]?)).map Cell.toLabel with
  | some (.ok text) => text
  | _ => ""

end Answer

namespace View

/-- The labels that a row must have: those of the target, and then the label columns as they are declared. -/
def labelsOf (v : View) (a : Answer) (row : List Cell) : Labels :=
  v.labels ++ v.map.labels.map fun name => (name, a.textIn row name)

/-- How a cell is accounted for. -/
inductive Accounts (v : View) (labels : Labels) (column : String) (cell : Cell) :
    Option (Sample ⊕ ValueError) → Prop
  | discarded {d} : v.map.columns.get? column = some d → d.isDiscarded = true → Accounts v labels column cell none
  | unknown {d} : v.map.columns.get? column = some d → d.isDiscarded = false → d.convert cell = .error .unknown →
      Accounts v labels column cell none
  | declared {d x} : v.map.columns.get? column = some d → d.isDiscarded = false → d.convert cell = .ok x →
      Accounts v labels column cell (some (.inl ⟨d.name, d.help, d.kind, labels, x⟩))
  | rejected {d e} : v.map.columns.get? column = some d → d.isDiscarded = false → d.convert cell = .error e →
      e ≠ .unknown → Accounts v labels column cell (some (.inr ⟨v.name, column, e⟩))
  | withheld : v.map.columns.get? column = none → v.emitUntyped = false → Accounts v labels column cell none
  | undeclared {x} : v.map.columns.get? column = none → v.emitUntyped = true → cell.toNumber = .ok x →
      Accounts v labels column cell
        (some (.inl ⟨v.name ++ "_" ++ column, "Unknown metric from " ++ v.name, .untyped, labels, x⟩))
  | undeclaredRejected {e} : v.map.columns.get? column = none → v.emitUntyped = true → cell.toNumber = .error e →
      Accounts v labels column cell (some (.inr ⟨v.name, column, e⟩))

/-- What is collected is the samples and the value errors of an account. -/
def Books (c : Collected) (account : List (Option (Sample ⊕ ValueError))) : Prop :=
  c.samples = account.filterMap (·.bind Sum.getLeft?) ∧ c.valueErrors = account.filterMap (·.bind Sum.getRight?)

theorem Books.append {c d : Collected} {account account' : List (Option (Sample ⊕ ValueError))}
    (books : Books c account) (books' : Books d account') : Books (c ++ d) (account ++ account') := by
  constructor
  · rw [List.filterMap_append, ← books.1, ← books'.1]
    rfl
  · rw [List.filterMap_append, ← books.2, ← books'.2]
    rfl

variable {v : View} {labels : Labels} {a : Answer}

theorem exists_accounts (v : View) (labels : Labels) (column : String) (cell : Cell) :
    ∃ entry, v.Accounts labels column cell entry ∧ Books (v.collectCell labels column cell) [entry] := by
  unfold collectCell
  cases declared : v.map.columns.get? column with
  | some d =>
    cases kept : d.isDiscarded with
    | true => exact ⟨none, .discarded declared kept, by simp [declaredCell, kept, Books]⟩
    | false =>
      cases converted : d.convert cell with
      | ok x => exact ⟨_, .declared declared kept converted, by simp [declaredCell, kept, converted, Books]; rfl⟩
      | error e =>
        by_cases unknown : e = .unknown
        · subst unknown
          exact ⟨none, .unknown declared kept converted, by simp [declaredCell, kept, converted, Books]⟩
        · refine ⟨_, .rejected declared kept converted unknown, ?_⟩
          cases e with
          | unknown => exact absurd rfl unknown
          | _ => simp [declaredCell, kept, converted, Books]; exact ⟨rfl, rfl⟩
  | none =>
    cases emitted : v.emitUntyped with
    | false => exact ⟨none, .withheld declared emitted, by simp [undeclaredCell, emitted, Books]⟩
    | true =>
      cases number : cell.toNumber with
      | ok x =>
        exact ⟨_, .undeclared declared emitted number, by simp [undeclaredCell, emitted, number, Books]; rfl⟩
      | error e =>
        exact ⟨_, .undeclaredRejected declared emitted number,
          by simp [undeclaredCell, emitted, number, Books]; exact ⟨rfl, rfl⟩⟩

/-- A column that is looked up by its name is the first of that name. -/
theorem lookup_zip (columns : List String) (row : List Cell) (name : String) :
    (columns.zip row).lookup name = (columns.idxOf? name).bind (row[·]?) := by
  induction columns generalizing row with
  | nil => rfl
  | cons column columns ih =>
    cases row with
    | nil => simp
    | cons cell row =>
      rw [List.zip_cons_cons, List.lookup_cons, List.idxOf?_cons]
      by_cases same : name = column
      · simp [same]
      · have other : (column == name) = false := beq_eq_false_iff_ne.2 (Ne.symm same)
        simp only [beq_eq_false_iff_ne.2 same, other, Bool.false_eq_true, if_false, ih, Option.bind_map]
        rfl

theorem labelText_zip (a : Answer) (row : List Cell) (name : String) :
    labelText (a.columns.zip row) name = a.textIn row name := by
  rw [labelText, lookup_zip]
  rfl

theorem rowLabels_zip (v : View) (a : Answer) (row : List Cell) :
    v.rowLabels (a.columns.zip row) = v.labelsOf a row := by
  rw [rowLabels, labelsOf]
  simp only [labelText_zip]

theorem books_collectCells (v : View) (labels : Labels) (cells : List (String × Cell)) :
    ∃ account, List.Forall₂ (fun cell entry => v.Accounts labels cell.1 cell.2 entry) cells account ∧
      Books (v.collectCells labels cells) account := by
  induction cells with
  | nil => exact ⟨[], .nil, rfl, rfl⟩
  | cons cell cells ih =>
    obtain ⟨entry, accounts, books⟩ := v.exists_accounts labels cell.1 cell.2
    obtain ⟨account, others, books'⟩ := ih
    exact ⟨entry :: account, .cons accounts others, books.append books'⟩

/-- An account of all cells of an answer: its entries are in the order of the cells. -/
def AccountsFor (v : View) (a : Answer) (account : List (Option (Sample ⊕ ValueError))) : Prop :=
  List.Forall₂ (fun cell entry => v.Accounts (v.labelsOf a cell.1) cell.2.1 cell.2.2 entry) a.cells account

/-- The failure over the first row of another width. -/
def misfit (v : View) (a : Answer) : Option Failure :=
  (a.rows[a.fitting]?).map fun row => .of (.viewRow v.name row.length a.columns.length)

theorem fitting_cons (columns : List String) (row : List Cell) (rows : List (List Cell)) :
    Answer.fitting ⟨columns, row :: rows⟩ =
      if row.length = columns.length then Answer.fitting ⟨columns, rows⟩ + 1 else 0 := by
  unfold Answer.fitting
  rw [List.findIdx_cons]
  split
  · rename_i fits
    rw [fits, bne_self_eq_false, cond_false]
  · rename_i other
    rw [bne_iff_ne.2 other, cond_true]

/-- The cells of a fitting row come before those of the rows behind it. -/
theorem cells_cons {columns : List String} {row : List Cell} (rows : List (List Cell))
    (fits : row.length = columns.length) :
    Answer.cells ⟨columns, row :: rows⟩ = (columns.zip row).map (row, ·) ++ Answer.cells ⟨columns, rows⟩ := by
  unfold Answer.cells
  rw [fitting_cons, if_pos fits, List.take_succ_cons, List.flatMap_cons]

theorem books_collect (v : View) (a : Answer) : (v.collect (.ok a)).failure = v.misfit a ∧
    ∃ account, v.AccountsFor a account ∧ Books (v.collect (.ok a)) account := by
  obtain ⟨columns, rows⟩ := a
  change (v.collectRows columns rows).failure = _ ∧ ∃ account, _ ∧ Books (v.collectRows columns rows) account
  induction rows with
  | nil => exact ⟨rfl, [], .nil, rfl, rfl⟩
  | cons row rows ih =>
    obtain ⟨failure, account, accounts, books⟩ := ih
    unfold collectRows misfit
    rw [fitting_cons]
    by_cases fits : row.length = columns.length
    · rw [if_pos fits, if_pos fits]
      obtain ⟨first, ofRow, booksRow⟩ := v.books_collectCells (v.rowLabels (columns.zip row)) (columns.zip row)
      rw [v.rowLabels_zip ⟨columns, rows⟩ row] at ofRow
      refine ⟨?_, first ++ account, ?_, booksRow.append books⟩
      · change ((v.collectCells _ _).failure.or (v.collectRows columns rows).failure) = _
        rw [collectCells_failure, failure]
        rfl
      · rw [AccountsFor, cells_cons rows fits]
        exact List.rel_append (List.forall₂_map_left_iff.2 ofRow) accounts
    · rw [if_neg fits, if_neg fits]
      refine ⟨rfl, [], ?_, rfl, rfl⟩
      rw [AccountsFor, Answer.cells, fitting_cons, if_neg fits]
      exact .nil

/-- There is one way to account for a cell. -/
theorem Accounts.unique {column : String} {cell : Cell} {entry entry' : Option (Sample ⊕ ValueError)}
    (accounts : v.Accounts labels column cell entry) (accounts' : v.Accounts labels column cell entry') :
    entry = entry' := by
  cases accounts <;> cases accounts' <;> simp_all

theorem AccountsFor.unique {account account' : List (Option (Sample ⊕ ValueError))}
    (accounts : v.AccountsFor a account) (accounts' : v.AccountsFor a account') : account = account' := by
  have unique : Relator.RightUnique fun (cell : List Cell × String × Cell) (entry : Option (Sample ⊕ ValueError)) =>
      v.Accounts (v.labelsOf a cell.1) cell.2.1 cell.2.2 entry := fun _ _ _ => Accounts.unique
  exact unique.forall₂ accounts accounts'

end View

namespace Exporter

/-- Reading a view leaves what is in the report, and behind it the entries of the one account of the answer's cells:
the cells of the rows before the first of another width, which ends the view with a failure. Without an answer the
failure is all that is added. -/
theorem cells_accounted_for (address : Session → σ) (c : Connection) (v : View) (sql : String) (r : TargetReport) :
    (∀ outcome, ∃ t r', Runs (scrapeView (world address) c v sql r) (⟨.query (address c.session) sql, outcome⟩ :: t) r') ∧
    ∀ outcome t r', Runs (scrapeView (world address) c v sql r) (⟨.query (address c.session) sql, outcome⟩ :: t) r' →
      (∃ log : List LogEntry, t = log.map .logged) ∧
      match outcome with
      | .ok a => ∃! account, v.AccountsFor a account ∧
          r' = { r with
            samples := r.samples ++ account.filterMap (·.bind Sum.getLeft?)
            valueErrors := r.valueErrors ++ account.filterMap (·.bind Sum.getRight?)
            viewFailures := r.viewFailures ++ ((v.misfit a).map (ViewFailure.mk v.name)).toList }
      | .error f =>
          r' = { r with viewFailures := r.viewFailures ++ [⟨v.name, f.during (.askingView v.name)⟩] } := by
  have read : scrapeView (world address) c v sql r = (Source.ofView v sql).read (world address) c r := rfl
  simp only [read, Source.runs_read]
  constructor
  · intro outcome
    exact ⟨_, _, outcome, rfl, rfl⟩
  · rintro outcome t r' ⟨outcome', exchanges, rfl⟩
    obtain ⟨asked, rfl⟩ := List.cons.inj exchanges
    obtain rfl : outcome = outcome' := by
      cases asked
      rfl
    refine ⟨⟨_, rfl⟩, ?_⟩
    rw [TargetReport.withParts_cons, TargetReport.withParts_nil]
    cases outcome with
    | error f =>
      simp [TargetReport.add, Part.collected, Source.ofView, View.collect, Collected.failed]
    | ok a =>
      obtain ⟨failure, account, accounts, samples, valueErrors⟩ := v.books_collect a
      refine ⟨account, ⟨accounts, ?_⟩, fun other told => told.1.unique accounts⟩
      change r.add v.name (v.collect (.ok a)) = _
      rw [TargetReport.add, samples, valueErrors, failure]

/-- A column that stands twice, one that is not declared, a label column that is missing, and a row cut short. -/
theorem cells_before_short_row :
    let size : Descriptor := ⟨"pg_x_size", "Size", .gauge, .numeric⟩
    let map : ViewMap := ⟨["tbl", "db"], .ofList [("tbl", .discarded), ("db", .discarded), ("size", size)]⟩
    let v : View := ⟨"pg_x", map, [("server", "db:5432")], true⟩
    let c : Connection := { session := ⟨0, ⟨"host=db", "db:5432"⟩⟩, labels := v.labels, state := {} }
    let a : Answer := ⟨["size", "tbl", "size", "age"],
      [[.int 1, .text "a", .text "big", .int 3], [.null, .int 7, .int 2, .bool true], [.int 9], [.int 4]]⟩
    ∃ t r', Runs (scrapeView (world Session.target) c v "SELECT" { target := "host=db" })
        (⟨.query ⟨"host=db", "db:5432"⟩ "SELECT", .ok a⟩ :: t) r' ∧
      r'.samples.map (fun s => (s.name, s.labels.map (·.2))) =
        [("pg_x_size", ["db:5432", "a", ""]), ("pg_x_age", ["db:5432", "a", ""]), ("pg_x_size", ["db:5432", "7", ""]),
          ("pg_x_size", ["db:5432", "7", ""]), ("pg_x_age", ["db:5432", "7", ""])] ∧
      r'.valueErrors = [⟨"pg_x", "size", .unparsable "big"⟩] ∧
      r'.viewFailures = [⟨"pg_x", .of (.viewRow "pg_x" 1 4)⟩] ∧
      ∃ account, v.AccountsFor a account ∧ account.length = 8 := by
  intro size map v c a
  let source := Source.ofView v "SELECT"
  let r : TargetReport := { target := "host=db" }
  have run : Runs (source.read (world Session.target) c r) (Part.exchanges Session.target c ⟨source, .ok a⟩)
      (r.withParts [⟨source, .ok a⟩]) := Source.runs_read.2 ⟨.ok a, rfl, rfl⟩
  obtain ⟨account, ⟨accounts, -⟩, -⟩ := ((cells_accounted_for Session.target c v "SELECT" r).2 _ _ _ run).2
  refine ⟨_, _, run, by decide +kernel, by decide +kernel, by decide +kernel, account, accounts, ?_⟩
  rw [← accounts.length_eq]
  decide +kernel

end Exporter

end PgMetrics
