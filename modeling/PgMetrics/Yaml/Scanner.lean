import PgMetrics.Yaml.Scalar
import PgMetrics.Yaml.Tag

namespace PgMetrics.Yaml

/-- A place where a key may have begun. Only the colon behind a value shows that it is one, and then the token that
says so is put in front of it. -/
structure SimpleKey where
  possible : Bool := false
  /-- Nothing but a key fits here. -/
  required : Bool := false
  /-- How many tokens come before it. -/
  number : Nat := 0
  mark : Mark := .start

structure Scanner where
  rest : List Spot
  /-- The tokens so far, the last one first. -/
  tokens : List Token
  count : Nat
  indent : Int
  indents : List Int
  /-- The key of the innermost brackets, or of the blocks outside of all. -/
  key : SimpleKey
  outerKeys : List SimpleKey
  keyAllowed : Bool

namespace Scanner

def start (ss : List Spot) : Scanner :=
  { rest := ss, tokens := [⟨.streamStart, markOf ss, markOf ss⟩], count := 1, indent := -1
    indents := [], key := {}, outerKeys := [], keyAllowed := true }

def mark (s : Scanner) : Mark :=
  markOf s.rest

def peek (s : Scanner) (n : Nat) : Char :=
  charAt n s.rest

/-- Whether the place is between brackets. -/
def inFlow (s : Scanner) : Bool :=
  !s.outerKeys.isEmpty

def push (s : Scanner) (t : Token) : Scanner :=
  { s with tokens := t :: s.tokens, count := s.count + 1 }

/-- Puts a token behind a number of earlier ones. -/
def insert (s : Scanner) (number : Nat) (t : Token) : Scanner :=
  let later := s.count - number
  { s with
    tokens := s.tokens.take later ++ t :: s.tokens.drop later
    count := s.count + 1 }

/-- Takes some characters as a token. -/
def take (s : Scanner) (n : Nat) (kind : TokenKind) : Scanner :=
  { s with rest := s.rest.drop n }.push ⟨kind, s.mark, markOf (s.rest.drop n)⟩

/-- Passes blanks, comments and line ends. Tabs indent nothing, so where a key may begin they stop. -/
def skipToToken : Nat → Scanner → Scanner
  | 0, s => s
  | count + 1, s =>
    let ss := if s.mark.column = 0 ∧ s.peek 0 = '\uFEFF' then s.rest.drop 1 else s.rest
    let tabs := s.inFlow || !s.keyAllowed
    let ss := skipComment (skipChars (fun c => c == ' ' || (tabs && c == '\t')) ss)
    if isBreak (charAt 0 ss) then
      skipToToken count { s with rest := ss.drop 1, keyAllowed := s.keyAllowed || !s.inFlow }
    else { s with rest := ss }

def keyMissing (s : Scanner) (k : SimpleKey) : YamlError :=
  fault "could not find expected ':'" s.rest "while scanning a simple key" k.mark

/-- A key ends in its line and within 1024 characters. -/
def isStale (s : Scanner) (k : SimpleKey) : Bool :=
  k.possible && (k.mark.line < s.mark.line || k.mark.index + 1024 < s.mark.index)

/-- Gives up keys that have become too long; the outermost missing one counts. -/
def dropStale (s : Scanner) : Except YamlError Scanner :=
  let keys := s.key :: s.outerKeys
  match (keys.reverse.filter fun k => s.isStale k && k.required).head? with
  | some k => .error (s.keyMissing k)
  | none =>
    let fresh (k : SimpleKey) : SimpleKey := { k with possible := k.possible && !s.isStale k }
    .ok { s with key := fresh s.key, outerKeys := s.outerKeys.map fresh }

def removeKey (s : Scanner) : Except YamlError Scanner :=
  if s.key.possible && s.key.required then .error (s.keyMissing s.key)
  else .ok { s with key := { s.key with possible := false } }

/-- Notes that a key may begin here. -/
def saveKey (s : Scanner) : Except YamlError Scanner :=
  if s.keyAllowed then
    s.removeKey.map fun s =>
      { s with key := ⟨true, !s.inFlow && s.indent == s.mark.column, s.count, s.mark⟩ }
  else .ok s

/-- Closes the blocks that are indented further than a column. -/
def unrollFrom (column : Int) : List Int → Scanner → Scanner
  | [], s => s
  | outer :: indents, s =>
    if s.indent > column then
      unrollFrom column indents
        { s.push ⟨.blockEnd, s.mark, s.mark⟩ with indent := outer, indents }
    else s

def unroll (s : Scanner) (column : Int) : Scanner :=
  if s.inFlow then s else unrollFrom column s.indents s

/-- Opens a block at a column, in front of the tokens from a number on. -/
def roll (s : Scanner) (mark : Mark) (number : Nat) (kind : TokenKind) : Scanner :=
  if !s.inFlow && decide (s.indent < mark.column) then
    { s.insert number ⟨kind, mark, mark⟩ with
      indent := mark.column, indents := s.indent :: s.indents }
  else s

/-- The end of the text closes everything, from a line of its own. -/
def fetchEnd (s : Scanner) : Except YamlError Scanner :=
  let m := s.mark
  let s : Scanner :=
    if m.column = 0 then s
    else { s with rest := [⟨Spot.endMark, ⟨m.index, m.line + 1, 0⟩⟩] }
  (s.unroll (-1)).removeKey.map fun s =>
    { s with keyAllowed := false }.push ⟨.streamEnd, s.mark, s.mark⟩

def fetchDirective (s : Scanner) : Except YamlError Scanner := do
  let s ← (s.unroll (-1)).removeKey
  let (t, rest) ← scanDirective s.rest
  return { s with keyAllowed := false, rest }.push t

def fetchDocumentMark (s : Scanner) (kind : TokenKind) : Except YamlError Scanner := do
  let s ← (s.unroll (-1)).removeKey
  return { s with keyAllowed := false }.take 3 kind

def fetchOpening (s : Scanner) (kind : TokenKind) : Except YamlError Scanner := do
  let s ← s.saveKey
  return { s with key := {}, outerKeys := s.key :: s.outerKeys, keyAllowed := true }.take 1 kind

def fetchClosing (s : Scanner) (kind : TokenKind) : Except YamlError Scanner := do
  let s ← s.removeKey
  let s :=
    match s.outerKeys with
    | [] => s
    | key :: outerKeys => { s with key, outerKeys }
  return { s with keyAllowed := false }.take 1 kind

def fetchFlowEntry (s : Scanner) : Except YamlError Scanner := do
  let s ← s.removeKey
  return { s with keyAllowed := true }.take 1 .flowEntry

/-- An indicator where no block may begin. -/
def notAllowed (s : Scanner) (what : String) : YamlError :=
  .malformed (what ++ " are not allowed in this context") s.mark none

def fetchBlockEntry (s : Scanner) : Except YamlError Scanner := do
  if !s.inFlow && !s.keyAllowed then throw (s.notAllowed "block sequence entries")
  let s ← (s.roll s.mark s.count .blockSequenceStart).removeKey
  return { s with keyAllowed := true }.take 1 .blockEntry

def fetchKey (s : Scanner) : Except YamlError Scanner := do
  if !s.inFlow && !s.keyAllowed then throw (s.notAllowed "mapping keys")
  let s ← (s.roll s.mark s.count .blockMappingStart).removeKey
  return { s with keyAllowed := !s.inFlow }.take 1 .key

def fetchValue (s : Scanner) : Except YamlError Scanner := do
  if s.key.possible then
    let k := s.key
    let s := (s.insert k.number ⟨.key, k.mark, k.mark⟩).roll k.mark k.number .blockMappingStart
    return { s with key := { k with possible := false }, keyAllowed := false }.take 1 .value
  else
    if !s.inFlow && !s.keyAllowed then throw (s.notAllowed "mapping values")
    let s := s.roll s.mark s.count .blockMappingStart
    return { s with keyAllowed := !s.inFlow }.take 1 .value

/-- Takes a token that may begin a key. -/
def fetchNode (s : Scanner) (scan : List Spot → Except YamlError (Token × List Spot)) :
    Except YamlError Scanner := do
  let s ← s.saveKey
  let (t, rest) ← scan s.rest
  return { s with keyAllowed := false, rest }.push t

def fetchBlockScalar (s : Scanner) (folded : Bool) : Except YamlError Scanner := do
  let s ← s.removeKey
  let r ← blockScalar folded s.indent s.mark (s.rest.drop 1)
  return { s with keyAllowed := true, rest := r.rest }.push
    ⟨.scalar r.text (if folded then .folded else .literal), s.mark, r.finish⟩

def scanQuoted (double : Bool) (ss : List Spot) : Except YamlError (Token × List Spot) :=
  (quotedFrom double (markOf ss) [] none 0 (ss.drop 1)).map fun r =>
    (⟨.scalar r.text (if double then .doubleQuoted else .singleQuoted), markOf ss, r.finish⟩, r.rest)

/-- A line end behind a plain scalar lets the next key begin. -/
def fetchPlain (s : Scanner) : Except YamlError Scanner := do
  let s ← s.saveKey
  let r ← plainFrom s.inFlow (s.indent + 1) s.mark [] s.mark none s.rest
  return { s with keyAllowed := r.broken, rest := r.rest }.push
    ⟨.scalar r.text .plain, s.mark, r.finish⟩

def isIndicator (c : Char) : Bool :=
  c ∈ ['-', '?', ':', ',', '[', ']', '\x7b', '\x7d', '#', '&', '*', '!', '|', '>', '\'', '"', '%', '@',
    '\x60']

/-- Some indicators begin plain text if no blank follows. -/
def beginsPlain (s : Scanner) : Bool :=
  let c := s.peek 0
  let next := s.peek 1
  (!isSpace c && !isIndicator c) || (c == '-' && !isBlank next) ||
    (!s.inFlow && (c == '?' || c == ':') && !isSpace next)

/-- Takes the next token. -/
def fetch (s : Scanner) : Except YamlError Scanner := do
  let s ← (s.skipToToken s.rest.length).dropStale
  let s := s.unroll s.mark.column
  let c := s.peek 0
  let spaced := isSpace (s.peek 1)
  if isEnd c then s.fetchEnd
  else if s.mark.column = 0 ∧ c = '%' then s.fetchDirective
  else if isDocumentMark s.rest then
    s.fetchDocumentMark (if c = '-' then .documentStart else .documentEnd)
  else if c = '[' then s.fetchOpening .flowSequenceStart
  else if c = '\x7b' then s.fetchOpening .flowMappingStart
  else if c = ']' then s.fetchClosing .flowSequenceEnd
  else if c = '\x7d' then s.fetchClosing .flowMappingEnd
  else if c = ',' then s.fetchFlowEntry
  else if c = '-' ∧ spaced then s.fetchBlockEntry
  else if c = '?' ∧ (s.inFlow ∨ spaced) then s.fetchKey
  else if c = ':' ∧ (s.inFlow ∨ spaced) then s.fetchValue
  else if c = '*' ∨ c = '&' then s.fetchNode scanAnchor
  else if c = '!' then s.fetchNode (scanTag s.inFlow)
  else if c = '|' ∧ !s.inFlow then s.fetchBlockScalar false
  else if c = '>' ∧ !s.inFlow then s.fetchBlockScalar true
  else if c = '\'' then s.fetchNode (scanQuoted false)
  else if c = '"' then s.fetchNode (scanQuoted true)
  else if s.beginsPlain then s.fetchPlain
  else
    throw (fault "found character that cannot start any token" s.rest
      "while scanning for the next token" s.mark)

/-- The tokens in front of the first that may still turn out to be a key. -/
def settled (s : Scanner) : List Token :=
  let open_ := (s.key :: s.outerKeys).filter (·.possible)
  s.tokens.reverse.take (open_.foldl (fun n k => min n k.number) s.count)

/-- All tokens, or those before a fault. Each takes a character, so `count` of them are enough. -/
def run : Nat → Scanner → List Token × Option YamlError
  | 0, s => (s.tokens.reverse, none)
  | count + 1, s =>
    match s.tokens with
    | ⟨.streamEnd, _, _⟩ :: _ => (s.tokens.reverse, none)
    | _ =>
      match s.fetch with
      | .ok s => run count s
      | .error e => (s.settled, some e)

end Scanner

/-- The tokens of a text up to its end or the first fault. -/
def tokens (ss : List Spot) : List Token × Option YamlError :=
  Scanner.run (ss.length + 1) (Scanner.start ss)

end PgMetrics.Yaml
