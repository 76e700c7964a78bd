import PgMetrics.Catalog.Basic
import PgMetrics.Decimal.Written
import PgMetrics.Text.Blank
import PgMetrics.Text.Pieces

namespace PgMetrics.Declarations

/-- A name filled up with spaces. -/
def padTo (width : Nat) (s : String) : String :=
  s ++ String.ofList (List.replicate (width - s.length) ' ')

def details (c : Column) : String :=
  c.role.name ++
    (match c.versions with
      | none => ""
      | some range => " [" ++ range.text ++ "]") ++
    (match c.mapping with
      | none => ""
      | some table =>
        " \x7b" ++ ", ".intercalate (table.entries.map fun (k, v) =>
          k ++ "=" ++ Decimal.write Decimal.plain v) ++ "\x7d") ++
    (if c.description.isEmpty then "" else " " ++ c.description)

/-- The head of a view: its queries, or its bare name if it has none. -/
def headLines (view : String) : Option (List Override) → List String
  | none => [view]
  | some [] => [view]
  | some overrides =>
    overrides.flatMap fun o =>
      (view ++ " [" ++ o.versions.text ++ "]") ::
        (((Text.split '\n' o.query).map Text.trim).filter (!·.isEmpty)).map ("    " ++ ·)

def viewLines (catalog : Catalog) (view : String) (columns : List Column) : List String :=
  headLines view (catalog.overrides.get? view) ++
    (columns.map fun c => "  " ++ padTo 40 c.name ++ " " ++ details c) ++ [""]

def text (catalog : Catalog) : String :=
  String.join ((catalog.views.entries.flatMap fun (view, columns) =>
    viewLines catalog view columns).map (· ++ "\n"))

end PgMetrics.Declarations
