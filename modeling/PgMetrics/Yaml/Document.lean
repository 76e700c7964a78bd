import PgMetrics.Yaml.Event
import PgMetrics.Yaml.Scanner

namespace PgMetrics.Yaml

inductive Node where
  | alias (id : Nat)
  | scalar (tag : Option (List Char)) (text : List Char) (plain : Bool)
  | sequenceStart (tag : Option (List Char))
  | sequenceEnd
  | mappingStart (tag : Option (List Char))
  | mappingEnd
  /-- The text has no document. -/
  | nothing
  deriving DecidableEq, Repr

abbrev Nodes := List (Node × Mark)

/-- The nodes of one document. A fault behind the last of them counts only for a reader that gets there. -/
structure Source where
  nodes : Nodes
  /-- The place of the node that each number of an anchor stands for. -/
  anchors : List (Nat × Nat)
  fault : Option YamlError
  deriving DecidableEq, Repr

namespace Source

/-- What has been collected of a document; the nodes are in reverse. -/
structure Collected where
  nodes : Nodes := []
  count : Nat := 0
  numbers : List (List Char × Nat) := []
  anchors : List (Nat × Nat) := []

namespace Collected

def add (c : Collected) (n : Node) (m : Mark) : Collected :=
  { c with nodes := (n, m) :: c.nodes, count := c.count + 1 }

/-- An anchor's number is the count of names before it, so a name that is used again may share one. -/
def addAnchored (c : Collected) (anchor : Option (List Char)) (n : Node) (m : Mark) : Collected :=
  match anchor with
  | none => c.add n m
  | some name =>
    let number := c.numbers.length
    { c.add n m with
      numbers := (name, number) :: c.numbers.filter (·.1 != name)
      anchors := (number, c.count) :: c.anchors }

def finish (c : Collected) (fault : Option YamlError) : Source :=
  ⟨c.nodes.reverse, c.anchors, fault⟩

end Collected

/-- The document that the events go through, and the events behind it. -/
def collect (fault : Option YamlError) : Collected → List Placed → Source × List Placed
  | c, [] => (c.finish fault, [])
  | c, (event, m) :: es =>
    match event with
    | .streamStart => collect fault c es
    | .documentStart => collect fault c es
    | .documentEnd => (c.finish none, es)
    | .streamEnd => ((c.add .nothing m).finish none, [(event, m)])
    | .alias name =>
      match c.numbers.lookup name with
      | some number => collect fault (c.add (.alias number) m) es
      | none => (c.finish (some (.unknownAnchor m)), es)
    | .scalar ps text plain => collect fault (c.addAnchored ps.anchor (.scalar ps.tag text plain) m) es
    | .sequenceStart ps => collect fault (c.addAnchored ps.anchor (.sequenceStart ps.tag) m) es
    | .sequenceEnd => collect fault (c.add .sequenceEnd m) es
    | .mappingStart ps => collect fault (c.addAnchored ps.anchor (.mappingStart ps.tag) m) es
    | .mappingEnd => collect fault (c.add .mappingEnd m) es

/-- The document of a text, and whether the text has nothing more. -/
def ofText (s : String) : Source × Bool :=
  match Spot.ofText s with
  | .error e => (⟨[], [], some e⟩, true)
  | .ok spots =>
    let (tokens, fault) := tokens spots
    let (events, fault) := events tokens fault
    let (source, rest) := collect fault {} events
    (source, source.fault.isSome || rest.head?.any (·.1 == .streamEnd))

end Source

/-- Reading counts the aliases that it has followed. -/
abbrev Reading := StateT Nat (Except YamlError)

/-- The way to a value from the whole document. -/
inductive Path where
  | root
  | index (parent : Path) (n : Nat)
  | key (parent : Path) (name : String)

def Path.text : Path → String
  | root => "."
  | index parent n => parent.text ++ "[" ++ n.repr ++ "]"
  | key root name => name
  | key parent name => parent.text ++ "." ++ name

namespace Source

/-- What a reader meets behind the last node. -/
def ending (d : Source) : YamlError :=
  d.fault.getD .noDocument

def wrong (e : ShapeError) (path : Path) (mark : Mark) : YamlError :=
  .shape e path.text mark

/-- Follows an alias; there may be a hundred times as many as nodes. -/
def follow (d : Source) (id : Nat) : Reading Nodes := do
  modify (· + 1)
  if d.nodes.length * 100 < (← get) then throw .tooManyRepetitions
  return d.nodes.drop ((d.anchors.lookup id).getD d.nodes.length)

/-- Reads the first node, or the one that an alias stands for, and goes on behind it. -/
def readNode {α : Type} (d : Source) (ns : Nodes) (read : Node → Mark → Nodes → Reading (α × Nodes)) :
    Reading (α × Nodes) := do
  match ns with
  | [] => throw d.ending
  | (.alias id, _) :: rest =>
    match ← d.follow id with
    | [] => throw d.ending
    | (n, m) :: inside =>
      let (value, _) ← read n m inside
      return (value, rest)
  | (n, m) :: rest => read n m rest

/-- A text in double quotes, as messages show it. -/
def quoted (s : String) : String :=
  "\"" ++ String.join (s.toList.map shown) ++ "\""
where
  shown (c : Char) : String :=
    if c = '"' then "\\\"" else if c = '\\' then "\\\\" else if c = '\n' then "\\n"
    else if c = '\t' then "\\t" else if c = '\r' then "\\r" else if c = '\x00' then "\\0"
    else if c.toNat < 0x20 ∨ c.toNat = 0x7F then
      "\\u\x7b" ++ String.ofList (Nat.toDigits 16 c.toNat) ++ "\x7d"
    else c.toString

/-- What a plain scalar would be by itself. -/
def plainKind (s : String) : String :=
  if s ∈ ["", "~", "null", "Null", "NULL"] then "unit value"
  else if s ∈ ["true", "True", "TRUE"] then "boolean \x60true\x60"
  else if s ∈ ["false", "False", "FALSE"] then "boolean \x60false\x60"
  else
    match s.toInt? with
    | some n => "integer \x60" ++ n.repr ++ "\x60"
    | none => "string " ++ quoted s

/-- How messages name a node that does not fit. -/
def kindOf : Node → String
  | .sequenceStart _ => "sequence"
  | .mappingStart _ => "map"
  | .scalar none text true => plainKind (String.ofList text)
  | .scalar _ text _ => "string " ++ quoted (String.ofList text)
  | _ => "unit value"

def mismatch {α : Type} (n : Node) (expected : Expected) (path : Path) (mark : Mark) : Reading α :=
  throw (wrong (.wrongKind (kindOf n) expected) path mark)

/-- Any scalar is a text. -/
def readText (d : Source) (path : Path) (ns : Nodes) : Reading (String × Nodes) :=
  d.readNode ns fun n m rest =>
    match n with
    | .scalar _ text _ => return (String.ofList text, rest)
    | n => mismatch n .text path m

/-- Whether a node is left out where a collection is due. -/
def isLeftOut : Node → Bool
  | .nothing => true
  | .scalar _ [] true => true
  | _ => false

/-- Reads entry after entry of a mapping; each takes a node, so `count` of them are enough. -/
def readEntries {α : Type} (d : Source) (path : Path)
    (entry : String → Mark → α → Nodes → Reading (α × Nodes)) :
    Nat → α → Nodes → Reading (α × Nodes)
  | 0, _, _ => throw d.ending
  | count + 1, acc, ns => do
    match ns with
    | [] => throw d.ending
    | (.mappingEnd, _) :: rest => return (acc, rest)
    | (_, m) :: _ =>
      let (name, rest) ← d.readText path ns
      let (acc, rest) ← entry name m acc rest
      readEntries d path entry count acc rest

/-- Reads element after element of a sequence. -/
def readElements {α : Type} (d : Source) (path : Path)
    (element : Path → Nodes → Reading (α × Nodes)) :
    Nat → Nat → List α → Nodes → Reading (List α × Nodes)
  | 0, _, _, _ => throw d.ending
  | count + 1, index, acc, ns => do
    match ns with
    | [] => throw d.ending
    | (.sequenceEnd, _) :: rest => return (acc.reverse, rest)
    | _ =>
      let (value, rest) ← element (.index path index) ns
      readElements d path element count (index + 1) (value :: acc) rest

/-- A mapping, or nothing in its place; `finish` makes a value of its entries. -/
def readMapping {α β : Type} (d : Source) (path : Path) (expected : Expected) (start : α)
    (entry : String → Mark → Mark → α → Nodes → Reading (α × Nodes))
    (finish : Mark → α → Reading β) (ns : Nodes) : Reading (β × Nodes) :=
  d.readNode ns fun n m rest => do
    match n with
    | .mappingStart _ =>
      let (acc, rest) ← d.readEntries path (entry · m) rest.length start rest
      return (← finish m acc, rest)
    | n => if isLeftOut n then return (← finish m start, rest) else mismatch n expected path m

/-- A sequence, or nothing in its place. -/
def readSequence {α : Type} (d : Source) (path : Path)
    (element : Path → Nodes → Reading (α × Nodes)) (ns : Nodes) : Reading (List α × Nodes) :=
  d.readNode ns fun n m rest =>
    match n with
    | .sequenceStart _ => d.readElements path element rest.length 0 [] rest
    | n => if isLeftOut n then return ([], rest) else mismatch n .sequence path m

end Source

end PgMetrics.Yaml
