import PgMetrics.Text.Pieces

namespace PgMetrics

inductive TomlValue where
  | string (text : String)
  | integer (value : Int)
  | boolean (value : Bool)
  | array (elements : List TomlValue)
  /-- A table in braces; its keys are paths. -/
  | table (settings : List (List String × TomlValue))

namespace Toml

/-- A header of a table, or a setting. A text with dates, fractions or lists of tables is not read. -/
inductive Statement where
  /-- The settings behind it belong to a table. -/
  | header (path : List String)
  | setting (path : List String) (value : TomlValue)

def isBlank (c : Char) : Bool :=
  c == ' ' || c == '\t'

/-- Characters that no text holds; tabs and line ends are judged where they stand. -/
def isControl (c : Char) : Bool :=
  c.toNat < 0x20 || c.toNat == 0x7F

/-- Whether a text starts with a line end, which is a line feed or a carriage return before one. -/
def atLineEnd : List Char → Bool
  | '\n' :: _ => true
  | '\r' :: '\n' :: _ => true
  | _ => false

def skipBlanks (cs : List Char) : List Char :=
  cs.dropWhile isBlank

/-- Passes blanks, line ends and comments. A character that no comment may hold ends them. -/
def skipSpace (comment : Bool) : List Char → List Char
  | [] => []
  | c :: cs =>
    if atLineEnd (c :: cs) then skipSpace false cs
    else if isBlank c then skipSpace comment cs
    else if comment then (if isControl c then c :: cs else skipSpace true cs)
    else if c = '#' then skipSpace true cs
    else c :: cs

/-- What follows a statement up to the end of its line; nothing but a comment may. -/
def endLine (cs : List Char) : Option (List Char) :=
  let rest :=
    match skipBlanks cs with
    | '#' :: cs => cs.dropWhile fun c => !isControl c || c == '\t'
    | cs => cs
  if rest.isEmpty || atLineEnd rest then some rest else none

end Toml

end PgMetrics
