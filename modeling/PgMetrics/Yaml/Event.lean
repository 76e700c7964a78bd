import PgMetrics.Yaml.Token

namespace PgMetrics.Yaml

/-- What may stand before a node. -/
structure Properties where
  anchor : Option (List Char) := none
  tag : Option (List Char) := none
  deriving DecidableEq, Repr

inductive Event where
  | streamStart
  | streamEnd
  | documentStart
  | documentEnd
  | alias (name : List Char)
  | scalar (properties : Properties) (text : List Char) (plain : Bool)
  | sequenceStart (properties : Properties)
  | sequenceEnd
  | mappingStart (properties : Properties)
  | mappingEnd
  deriving DecidableEq, Repr

/-- An event and where it begins. -/
abbrev Placed := Event × Mark

/-- What is expected next. -/
inductive Expectation where
  | streamStart
  | implicitDocument
  | document
  | documentContent
  | documentEnd
  | blockNode
  | blockSequence (first : Bool)
  | indentlessSequence
  | blockKey (first : Bool)
  | blockValue
  | flowSequence (first : Bool)
  | pairKey
  | pairValue
  | pairEnd
  | flowKey (first : Bool)
  | flowValue (empty : Bool)
  | nothing
  deriving DecidableEq, Repr

structure Parser where
  tokens : List Token
  /-- What ends the tokens if they run out. -/
  ending : YamlError
  expected : Expectation := .streamStart
  /-- What is expected behind the open nodes, the innermost first. -/
  pending : List Expectation := []
  /-- Where the open collections began. -/
  marks : List Mark := []
  /-- The tags that directives declare. -/
  tags : List (List Char × List Char) := []

namespace Parser

abbrev Result := Except YamlError (Placed × Parser)

def peek (p : Parser) : Except YamlError Token :=
  match p.tokens with
  | [] => .error p.ending
  | t :: _ => .ok t

def skip (p : Parser) : Parser :=
  { p with tokens := p.tokens.drop 1 }

/-- Leaves an open node. -/
def pop (p : Parser) : Parser :=
  match p.pending with
  | [] => { p with expected := .nothing }
  | e :: es => { p with expected := e, pending := es }

/-- Leaves an open collection. -/
def leave (p : Parser) : Parser :=
  { p.pop with marks := p.marks.drop 1 }

/-- Goes on to a node, with something expected behind it. -/
def behind (p : Parser) (e : Expectation) : Parser :=
  { p with pending := e :: p.pending }

/-- An empty plain scalar stands for what is left out at a place, and something is expected behind it. -/
def empty (p : Parser) (mark : Mark) (e : Expectation) : Result :=
  .ok ((.scalar {} [] true, mark), { p with expected := e })

/-- A fault in a collection that is open. -/
def broken (p : Parser) (problem context : String) (t : Token) : YamlError :=
  .malformed problem t.start (some (context, p.marks.head?.getD .start))

/-- The full tag of a handle and a suffix. -/
def resolveTag (p : Parser) (handle suffix : List Char) (start mark : Mark) :
    Except YamlError (List Char) :=
  if handle.isEmpty then .ok suffix
  else
    match p.tags.lookup handle with
    | some tagStart => .ok (tagStart ++ suffix)
    | none =>
      .error (.malformed "found undefined tag handle" mark (some ("while parsing a node", start)))

/-- Anchor and tag before a node, in either order, and where they begin. -/
def readHead (p : Parser) : Except YamlError (Option Mark × Properties × Parser) := do
  let t ← p.peek
  match t.kind with
  | .anchor name =>
    let p := p.skip
    let u ← p.peek
    match u.kind with
    | .tag handle suffix =>
      let _ ← p.skip.peek
      return (t.start, ⟨name, ← p.resolveTag handle suffix t.start u.start⟩, p.skip)
    | _ => return (t.start, ⟨name, none⟩, p)
  | .tag handle suffix =>
    let q := p.skip
    let u ← q.peek
    match u.kind with
    | .anchor name =>
      let _ ← q.skip.peek
      return (t.start, ⟨name, ← p.resolveTag handle suffix t.start t.start⟩, q.skip)
    | _ => return (t.start, ⟨none, ← p.resolveTag handle suffix t.start t.start⟩, q)
  | _ => return (none, {}, p)

/-- The node that begins with the next token behind anchor and tag. The tag `!` says nothing of a scalar. -/
def body (p : Parser) (block indentless : Bool) (head : Option Mark) (properties : Properties) :
    Result := do
  let t ← p.peek
  let start := head.getD t.start
  let opened (event : Event) (e : Expectation) : Result :=
    .ok ((event, start), { p with expected := e })
  let failed : Result :=
    if head.isSome then .ok ((.scalar properties [] true, start), p.pop)
    else
      .error (.malformed "did not find expected node content" t.start
        (some (if block then "while parsing a block node" else "while parsing a flow node", start)))
  match t.kind with
  | .scalar text style =>
    let tag := if properties.tag = some ['!'] then none else properties.tag
    return ((.scalar ⟨properties.anchor, tag⟩ text (style == .plain), start), p.pop.skip)
  | .flowSequenceStart => opened (.sequenceStart properties) (.flowSequence true)
  | .flowMappingStart => opened (.mappingStart properties) (.flowKey true)
  | .blockEntry =>
    if indentless then opened (.sequenceStart properties) .indentlessSequence else failed
  | .blockSequenceStart =>
    if block then opened (.sequenceStart properties) (.blockSequence true) else failed
  | .blockMappingStart =>
    if block then opened (.mappingStart properties) (.blockKey true) else failed
  | _ => failed

def node (p : Parser) (block indentless : Bool) : Result := do
  let t ← p.peek
  match t.kind with
  | .alias name => return ((.alias name, t.start), p.pop.skip)
  | _ =>
    let (head, properties, p) ← p.readHead
    p.body block indentless head properties

def isDirective : TokenKind → Bool
  | .version .. => true
  | .tagDirective .. => true
  | _ => false

/-- Directives before a document; `versioned` says that one has told the version. -/
def directives (p : Parser) (versioned : Bool) :
    List Token → Except YamlError (List (List Char × List Char) × List Token)
  | [] => .error p.ending
  | t :: ts =>
    match t.kind with
    | .version major minor =>
      if versioned then .error (.malformed "found duplicate %YAML directive" t.start none)
      else if major ≠ 1 ∨ (minor ≠ 1 ∧ minor ≠ 2) then
        .error (.malformed "found incompatible YAML document" t.start none)
      else directives p true ts
    | .tagDirective handle tagStart =>
      if (p.tags.lookup handle).isSome then
        .error (.malformed "found duplicate %TAG directive" t.start none)
      else directives { p with tags := (handle, tagStart) :: p.tags } versioned ts
    | _ => .ok (p.tags, t :: ts)

/-- The tags that need no directive. -/
def defaultTags : List (List Char × List Char) :=
  [(['!'], ['!']), (['!', '!'], "tag:yaml.org,2002:".toList)]

def withDefaults (tags : List (List Char × List Char)) : List (List Char × List Char) :=
  tags ++ defaultTags

def documentStart (p : Parser) (implicit : Bool) : Result := do
  let p :=
    if implicit then p
    else { p with tokens := p.tokens.dropWhile (·.kind == .documentEnd) }
  let t ← p.peek
  match t.kind with
  | .streamEnd => return ((.streamEnd, t.start), { p with expected := .nothing }.skip)
  | kind =>
    if implicit && !isDirective kind && kind != .documentStart then
      return ((.documentStart, t.start),
        { p with tags := defaultTags, expected := .blockNode }.behind .documentEnd)
    else
      let (tags, rest) ← directives { p with tags := [] } false p.tokens
      let p := { p with tags := withDefaults tags, tokens := rest }
      let u ← p.peek
      if u.kind = .documentStart then
        return ((.documentStart, t.start),
          { p with expected := .documentContent }.skip.behind .documentEnd)
      else throw (.malformed "did not find expected <document start>" u.start none)

def documentContent (p : Parser) : Result := do
  let t ← p.peek
  if isDirective t.kind || t.kind ∈ [.documentStart, .documentEnd, .streamEnd] then
    return ((.scalar {} [] true, t.start), p.pop)
  else p.node true false

def documentEnd (p : Parser) : Result := do
  let t ← p.peek
  let p := if t.kind = .documentEnd then p.skip else p
  return ((.documentEnd, t.start), { p with expected := .document, tags := [] })

/-- Notes where a collection begins. -/
def enter (p : Parser) (first : Bool) : Except YamlError Parser :=
  if first then (p.peek).map fun t => { p.skip with marks := t.start :: p.marks } else .ok p

def blockSequence (p : Parser) (first : Bool) : Result := do
  let p ← p.enter first
  let t ← p.peek
  match t.kind with
  | .blockEntry =>
    let p := p.skip
    let u ← p.peek
    if u.kind ∈ [.blockEntry, .blockEnd] then p.empty t.finish (.blockSequence false)
    else (p.behind (.blockSequence false)).node true false
  | .blockEnd => return ((.sequenceEnd, t.start), p.leave.skip)
  | _ => throw (p.broken "did not find expected '-' indicator" "while parsing a block collection" t)

def indentlessSequence (p : Parser) : Result := do
  let t ← p.peek
  match t.kind with
  | .blockEntry =>
    let p := p.skip
    let u ← p.peek
    if u.kind ∈ [.blockEntry, .key, .value, .blockEnd] then p.empty t.finish .indentlessSequence
    else (p.behind .indentlessSequence).node true false
  | _ => return ((.sequenceEnd, t.start), p.pop)

/-- A key or value in a block, which may be left out. -/
def blockPart (p : Parser) (mark : Mark) (next : Expectation) : Result := do
  let u ← p.peek
  if u.kind ∈ [.key, .value, .blockEnd] then p.empty mark next
  else (p.behind next).node true true

def blockKey (p : Parser) (first : Bool) : Result := do
  let p ← p.enter first
  let t ← p.peek
  match t.kind with
  | .key => p.skip.blockPart t.finish .blockValue
  | .blockEnd => return ((.mappingEnd, t.start), p.leave.skip)
  | _ => throw (p.broken "did not find expected key" "while parsing a block mapping" t)

def blockValue (p : Parser) : Result := do
  let t ← p.peek
  match t.kind with
  | .value => p.skip.blockPart t.finish (.blockKey false)
  | _ => p.empty t.start (.blockKey false)

/-- Passes the comma before all but the first entry between brackets. -/
def separator (p : Parser) (first : Bool) (close : TokenKind) (problem context : String) :
    Except YamlError Parser := do
  let t ← p.peek
  if first || t.kind == close then return p
  else if t.kind = .flowEntry then return p.skip
  else throw (p.broken problem context t)

/-- A pair in a sequence is a mapping of its own. -/
def flowSequence (p : Parser) (first : Bool) : Result := do
  let p ← p.enter first
  let p ← p.separator first .flowSequenceEnd "did not find expected ',' or ']'"
    "while parsing a flow sequence"
  let t ← p.peek
  match t.kind with
  | .flowSequenceEnd => return ((.sequenceEnd, t.start), p.leave.skip)
  | .key => return ((.mappingStart {}, t.start), { p.skip with expected := .pairKey })
  | _ => (p.behind (.flowSequence false)).node false false

def pairKey (p : Parser) : Result := do
  let t ← p.peek
  if t.kind ∈ [.value, .flowEntry, .flowSequenceEnd] then p.skip.empty t.finish .pairValue
  else (p.behind .pairValue).node false false

def pairValue (p : Parser) : Result := do
  let t ← p.peek
  if t.kind = .value then
    let p := p.skip
    let u ← p.peek
    if u.kind ∈ [.flowEntry, .flowSequenceEnd] then p.empty u.start .pairEnd
    else (p.behind .pairEnd).node false false
  else p.empty t.start .pairEnd

def pairEnd (p : Parser) : Result := do
  let t ← p.peek
  return ((.mappingEnd, t.start), { p with expected := .flowSequence false })

def flowKey (p : Parser) (first : Bool) : Result := do
  let p ← p.enter first
  let p ← p.separator first .flowMappingEnd "did not find expected ',' or '\x7d'"
    "while parsing a flow mapping"
  let t ← p.peek
  match t.kind with
  | .flowMappingEnd => return ((.mappingEnd, t.start), p.leave.skip)
  | .key =>
    let p := p.skip
    let u ← p.peek
    if u.kind ∈ [.value, .flowEntry, .flowMappingEnd] then p.empty u.start (.flowValue false)
    else (p.behind (.flowValue false)).node false false
  | _ => (p.behind (.flowValue true)).node false false

def flowValue (p : Parser) (empty : Bool) : Result := do
  let t ← p.peek
  if !empty && t.kind == .value then
    let p := p.skip
    let u ← p.peek
    if u.kind ∈ [.flowEntry, .flowMappingEnd] then p.empty u.start (.flowKey false)
    else (p.behind (.flowKey false)).node false false
  else p.empty t.start (.flowKey false)

/-- The next event. -/
def next (p : Parser) : Result :=
  match p.expected with
  | .streamStart => do
    let t ← p.peek
    return ((.streamStart, t.start), { p with expected := .implicitDocument }.skip)
  | .implicitDocument => p.documentStart true
  | .document => p.documentStart false
  | .documentContent => p.documentContent
  | .documentEnd => p.documentEnd
  | .blockNode => p.node true false
  | .blockSequence first => p.blockSequence first
  | .indentlessSequence => p.indentlessSequence
  | .blockKey first => p.blockKey first
  | .blockValue => p.blockValue
  | .flowSequence first => p.flowSequence first
  | .pairKey => p.pairKey
  | .pairValue => p.pairValue
  | .pairEnd => p.pairEnd
  | .flowKey first => p.flowKey first
  | .flowValue empty => p.flowValue empty
  | .nothing => .error p.ending

/-- Event after event; no token gives more than four. -/
def run : Nat → Parser → List Placed × Option YamlError
  | 0, _ => ([], none)
  | count + 1, p =>
    match p.next with
    | .error e => ([], some e)
    | .ok ((.streamEnd, m), _) => ([(.streamEnd, m)], none)
    | .ok (event, p) =>
      let (events, error) := run count p
      (event :: events, error)

end Parser

/-- The events of tokens up to the end of the text or the first fault. -/
def events (tokens : List Token) (fault : Option YamlError) : List Placed × Option YamlError :=
  Parser.run (4 * tokens.length + 8) { tokens, ending := fault.getD .noDocument }

end PgMetrics.Yaml
