import PgMetrics.Extension.Document
import PgMetrics.Failure
import PgMetrics.Yaml.Document

namespace PgMetrics.Document

open Yaml

def roleNames : String :=
  "one of " ++ ", ".intercalate (Role.all.map fun r => "\x60" ++ r.name ++ "\x60")

def roleOf (name : String) (path : Path) (mark : Mark) : Reading Role :=
  match Role.read? name with
  | some r => return r
  | none => throw (Source.wrong (.unknownVariant name roleNames) path mark)

/-- The role that a tag names, such as `!GAUGE`. -/
def taggedRole? : Option (List Char) → Option String
  | some ['!'] => some "!"
  | some ('!' :: name) => some (String.ofList name)
  | _ => none

def isNull (text : List Char) : Bool :=
  String.ofList text ∈ ["~", "null", "Null", "NULL"]

/-- A role, as a text or as the tag of nothing. Faults of a tag count for the column. -/
def readRole (d : Source) (column path : Path) (columnMark : Mark) (ns : Nodes) :
    Reading (Role × Nodes) :=
  d.readNode ns fun n m rest => do
    match n with
    | .scalar tag text plain =>
      match taggedRole? tag with
      | none => return (← roleOf (String.ofList text) path m, rest)
      | some name =>
        let role ← roleOf name column columnMark
        if plain && (text.isEmpty || isNull text) then return (role, rest)
        else
          throw (Source.wrong
            (.wrongKind ("string " ++ Source.quoted (String.ofList text)) .unit) path m)
    | .mappingStart tag => unscalar n tag m
    | .sequenceStart tag => unscalar n tag m
    | n => Source.mismatch n .role path m
where
  unscalar (n : Node) (tag : Option (List Char)) (m : Mark) : Reading (Role × Nodes) := do
    match taggedRole? tag with
    | none => Source.mismatch n .role path m
    | some name =>
      let _ ← roleOf name column columnMark
      Source.mismatch n .unit path m

/-- A query, or nothing for an empty value and the words for it. -/
def readQuery (d : Source) (view path : Path) (viewMark : Mark) (ns : Nodes) :
    Reading (Option String × Nodes) :=
  d.readNode ns fun n m rest =>
    match n with
    | .nothing => return (none, rest)
    | .scalar tag text plain =>
      let some_ : Reading (Option String × Nodes) := return (some (String.ofList text), rest)
      if !plain then some_
      else if tag = some "tag:yaml.org,2002:null".toList then
        if isNull text then return (none, rest)
        else throw (Source.wrong (.wrongValue (String.ofList text) .null) view viewMark)
      else if tag.isSome then some_
      else if text.isEmpty || isNull text then return (none, rest)
      else some_
    | n => Source.mismatch n .text path m

/-- The parts of a column that have been read. -/
structure ColumnParts where
  role : Option Role := none
  description : Option String := none

def readColumn (d : Source) (path : Path) (ns : Nodes) : Reading (DocumentColumn × Nodes) :=
  d.readMapping path .column ({} : ColumnParts)
    (fun name mark keyMark parts rest => do
      let value := Path.key path name
      match name with
      | "usage" =>
        if parts.role.isSome then throw (Source.wrong (.duplicateField name) path mark)
        let (role, rest) ← readRole d path value mark rest
        return ({ parts with role }, rest)
      | "description" =>
        if parts.description.isSome then throw (Source.wrong (.duplicateField name) path mark)
        let (description, rest) ← d.readText value rest
        return ({ parts with description }, rest)
      | _ =>
        throw (Source.wrong (.unknownField name "\x60usage\x60 or \x60description\x60") path keyMark))
    (fun mark parts =>
      match parts.role with
      | some role => return { role, description := parts.description.getD "" }
      | none => throw (Source.wrong (.missingField "usage") path mark))
    ns

/-- A mapping to values of one kind, in which the last entry of a name counts. -/
def readTable {α : Type} (d : Source) (path : Path) (value : Path → Nodes → Reading (α × Nodes))
    (ns : Nodes) : Reading (Table α × Nodes) :=
  d.readMapping path .map (Table.empty : Table α)
    (fun name _ _ table rest => do
      let (v, rest) ← value (.key path name) rest
      return (table.insert name v, rest))
    (fun _ table => return table)
    ns

/-- The parts of a view that have been read. -/
structure ViewParts where
  query : Option (Option String) := none
  metrics : Option (List (Table DocumentColumn)) := none

def readView (d : Source) (path : Path) (ns : Nodes) : Reading (DocumentView × Nodes) :=
  d.readMapping path .view ({} : ViewParts)
    (fun name mark keyMark parts rest => do
      let value := Path.key path name
      match name with
      | "query" =>
        if parts.query.isSome then throw (Source.wrong (.duplicateField name) path mark)
        let (query, rest) ← readQuery d path value mark rest
        return ({ parts with query }, rest)
      | "metrics" =>
        if parts.metrics.isSome then throw (Source.wrong (.duplicateField name) path mark)
        let (metrics, rest) ← d.readSequence value (readTable d · (readColumn d)) rest
        return ({ parts with metrics }, rest)
      | _ => throw (Source.wrong (.unknownField name "\x60query\x60 or \x60metrics\x60") path keyMark))
    (fun _ parts => return { query := parts.query.join, metrics := parts.metrics.getD [] })
    ns

/-- The document that a text describes, without the failure's activities. -/
def readYaml (s : String) : Except YamlError Document :=
  let (d, whole) := Source.ofText s
  match (readTable d .root (readView d) d.nodes).run 0 with
  | .error e => .error e
  | .ok ((views, _), _) =>
    match d.fault with
    | some e => .error e
    | none => if whole then .ok { views } else .error .severalDocuments

/-- The document that a text describes. -/
def read (s : String) : Except Failure Document :=
  match readYaml s with
  | .ok d => .ok d
  | .error e => .error ((Failure.of (.yaml e)).during .parsingDocument)

end PgMetrics.Document
