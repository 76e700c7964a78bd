import PgMetrics.Metric.Setting
import PgMetrics.Scrape.Report
import PgMetrics.Session.World

namespace PgMetrics.Settings

/-- The name under which settings fail. -/
def view : String := "pg_settings"

def query : String :=
  "SELECT name, setting, COALESCE(unit, ''), short_desc, vartype FROM pg_settings " ++
    "WHERE vartype IN ('bool', 'integer', 'real');"

def textOf (c : Cell) : String :=
  match c.toLabel with
  | .ok text => text
  | .error _ => ""

/-- The setting of a row. -/
def ofRow? : List Cell → Option Setting
  | [name, setting, unit, description, type] =>
    some ⟨textOf name, textOf setting, textOf unit, textOf description, textOf type⟩
  | _ => none

def collectSetting (labels : Labels) (s : Setting) : Collected :=
  match s.sample labels with
  | .ok sample => { samples := [sample] }
  | .error e => { valueErrors := [⟨view, s.name, e⟩], log := [.settingSkipped s.name e] }

/-- One row that is no setting spoils all, but for what has been logged. -/
def collectRows (labels : Labels) : List (List Cell) → Collected
  | [] => {}
  | row :: rows =>
    match ofRow? row with
    | none => .failed (.of (.settingsRow row.length))
    | some s =>
      let first := collectSetting labels s
      let rest := collectRows labels rows
      match rest.failure with
      | none => first ++ rest
      | some e => { failure := some e, log := first.log ++ rest.log }

/-- What the outcome of the query contributes. -/
def collect (labels : Labels) : Except Failure Answer → Collected
  | .ok a => collectRows labels a.rows
  | .error e => .failed (e.during .askingSettings)

end PgMetrics.Settings
