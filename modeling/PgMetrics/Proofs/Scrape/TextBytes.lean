import Mathlib.Data.List.Forall2
import PgMetrics.Scrape.Discovery
import PgMetrics.Scrape.Settings
import PgMetrics.Scrape.View
import PgMetrics.Session.Refresh

namespace PgMetrics

/-- A text is like the bytes that it is written with. -/
inductive Cell.Alike : Cell → Cell → Prop
  | same (c) : Alike c c
  | bytes (s) : Alike (.text s) (.bytes (Text.encode s))
  | text (s) : Alike (.bytes (Text.encode s)) (.text s)

namespace Cell.Alike

variable {c c' : Cell}

theorem symm (alike : Alike c c') : Alike c' c := by
  cases alike with
  | same => exact .same c
  | bytes s => exact .text s
  | text s => exact .bytes s

theorem toNumber_eq (alike : Alike c c') : c.toNumber = c'.toNumber := by
  cases alike with
  | same => rfl
  | bytes s => exact (toNumber_bytes s).symm
  | text s => exact toNumber_bytes s

theorem toLabel_eq (alike : Alike c c') : c.toLabel = c'.toLabel := by
  cases alike with
  | same => rfl
  | bytes s => exact (toLabel_bytes s).symm
  | text s => exact toLabel_bytes s

theorem convert_eq (alike : Alike c c') (d : Descriptor) : d.convert c = d.convert c' := by
  cases alike with
  | same => rfl
  | bytes s => exact (d.convert_bytes s).symm
  | text s => exact d.convert_bytes s

end Cell.Alike

/-- Rows whose cells are alike. -/
abbrev RowsAlike : List Cell → List Cell → Prop :=
  List.Forall₂ Cell.Alike

/-- Answers of the same columns whose cells are alike. -/
structure Answer.Alike (a a' : Answer) : Prop where
  columns : a.columns = a'.columns
  rows : List.Forall₂ RowsAlike a.rows a'.rows

theorem Answer.Alike.symm {a a' : Answer} (alike : a.Alike a') : a'.Alike a where
  columns := alike.columns.symm
  rows := alike.rows.flip.imp fun _ _ row => row.flip.imp fun _ _ cell => cell.symm

/-- What is read from alike rows in the same way is the same. -/
theorem RowsAlike.head?_toLabel {row row' : List Cell} (alike : RowsAlike row row') :
    row.head?.map Cell.toLabel = row'.head?.map Cell.toLabel := by
  cases alike with
  | nil => rfl
  | cons cell _ => exact congrArg some cell.toLabel_eq

theorem Answer.Alike.firstCell?_toLabel {a a' : Answer} (alike : a.Alike a') :
    a.firstCell?.map Cell.toLabel = a'.firstCell?.map Cell.toLabel := by
  obtain ⟨columns, rows⟩ := a
  obtain ⟨columns', rows'⟩ := a'
  cases alike.rows with
  | nil => rfl
  | cons row _ =>
    cases row with
    | nil => rfl
    | cons cell _ => exact congrArg some cell.toLabel_eq

theorem Banner.ofAnswer_eq {a a' : Answer} (alike : a.Alike a') : ofAnswer a = ofAnswer a' := by
  rw [ofAnswer, alike.firstCell?_toLabel]
  rfl

theorem Discovery.names_eq {a a' : Answer} (alike : a.Alike a') : names a = names a' := by
  have rows := alike.rows
  unfold names
  generalize a.rows = before, a'.rows = after at rows ⊢
  induction rows with
  | nil => rfl
  | cons row _ ih =>
    rw [List.filterMap_cons, List.filterMap_cons, row.head?_toLabel, ih]

namespace Settings

theorem ofRow?_eq {row row' : List Cell} (alike : RowsAlike row row') : ofRow? row = ofRow? row' := by
  have text {cell cell' : Cell} (alike : cell.Alike cell') : textOf cell = textOf cell' := by
    rw [textOf, alike.toLabel_eq]
    rfl
  -- Rows are settings if they have five cells.
  rcases alike with _ | ⟨name, _ | ⟨setting, _ | ⟨unit, _ | ⟨description, _ | ⟨type, _ | _⟩⟩⟩⟩⟩
  case cons.cons.cons.cons.cons.nil => simp only [ofRow?, text name, text setting, text unit, text description, text type]
  all_goals rfl

theorem collect_eq {a a' : Answer} (alike : a.Alike a') (labels : Labels) :
    collect labels (.ok a) = collect labels (.ok a') := by
  have rows := alike.rows
  change collectRows labels a.rows = collectRows labels a'.rows
  generalize a.rows = before, a'.rows = after at rows ⊢
  induction rows with
  | nil => rfl
  | cons row _ ih =>
    simp only [collectRows, ofRow?_eq row, List.Forall₂.length_eq row, ih]

end Settings

namespace View

theorem labelText_eq {columns : List String} {row row' : List Cell} (alike : RowsAlike row row') (column : String) :
    labelText (columns.zip row) column = labelText (columns.zip row') column := by
  have found : ((columns.zip row).lookup column).map Cell.toLabel =
      ((columns.zip row').lookup column).map Cell.toLabel := by
    induction alike generalizing columns with
    | nil => rfl
    | cons cell _ ih =>
      cases columns with
      | nil => rfl
      | cons first columns =>
        simp only [List.zip_cons_cons, List.lookup_cons]
        split
        · exact congrArg some cell.toLabel_eq
        · exact ih
  rw [labelText, found]
  rfl

theorem collectCell_eq {c c' : Cell} (alike : c.Alike c') (v : View) (labels : Labels) (column : String) :
    v.collectCell labels column c = v.collectCell labels column c' := by
  simp only [collectCell, declaredCell, undeclaredCell, alike.convert_eq, alike.toNumber_eq]

theorem collectCells_eq {columns : List String} {row row' : List Cell} (alike : RowsAlike row row') (v : View)
    (labels : Labels) : v.collectCells labels (columns.zip row) = v.collectCells labels (columns.zip row') := by
  induction alike generalizing columns with
  | nil => rfl
  | cons cell _ ih =>
    cases columns with
    | nil => rfl
    | cons first columns => simp only [List.zip_cons_cons, collectCells, collectCell_eq cell, ih]

theorem collect_eq {a a' : Answer} (alike : a.Alike a') (v : View) : v.collect (.ok a) = v.collect (.ok a') := by
  change v.collectRows a.columns a.rows = v.collectRows a'.columns a'.rows
  have rows := alike.rows
  rw [alike.columns]
  generalize a.rows = before, a'.rows = after at rows ⊢
  induction rows with
  | nil => rfl
  | cons row _ ih =>
    simp only [collectRows, rowLabels, labelText_eq row, collectCells_eq row, List.Forall₂.length_eq row, ih]

end View

end PgMetrics
