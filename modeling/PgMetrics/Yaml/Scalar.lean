import PgMetrics.Yaml.Spot
import PgMetrics.Yaml.Token

namespace PgMetrics.Yaml

/-- What stands between two words: blanks in one line, or line ends. All texts are kept in reverse. -/
structure Gap where
  blanks : List Char := []
  broken : Bool := false
  firstBreak : List Char := []
  breaks : List Char := []

namespace Gap

/-- The text that stands for the gap, in reverse: of several line ends the first is dropped, and a single one is a
space. -/
def folded (g : Gap) : List Char :=
  if !g.broken then g.blanks
  else if g.firstBreak = ['\n'] then (if g.breaks.isEmpty then [' '] else g.breaks)
  else g.breaks ++ g.firstBreak

def addBlank (g : Gap) (c : Char) : Gap :=
  if g.broken then g else { g with blanks := c :: g.blanks }

def addBreak (g : Gap) (c : Char) : Gap :=
  if g.broken then { g with breaks := c :: g.breaks }
  else { broken := true, firstBreak := [c] }

end Gap

/-- A scalar that has been read, with the text behind it. -/
structure ReadScalar where
  text : List Char
  finish : Mark
  /-- Whether a line has ended since the last character of the text. -/
  broken : Bool
  rest : List Spot

/-- Whether a plain scalar ends before the next character. -/
def endsPlain (flow : Bool) (ss : List Spot) : Bool :=
  let c := charAt 0 ss
  (c == ':' && isSpace (charAt 1 ss)) || (flow && c ∈ [',', '[', ']', '\x7b', '\x7d'])

/-- Continues a plain scalar. Behind a gap, text ends at lower indentation, a document mark or a comment. -/
def plainFrom (flow : Bool) (indent : Int) (start : Mark) (text : List Char) (finish : Mark)
    (gap : Option Gap) : List Spot → Except YamlError ReadScalar
  | [] => .ok ⟨text.reverse, finish, gap.any (·.broken), []⟩
  | s :: ss =>
    let here := s :: ss
    let done : Except YamlError ReadScalar := .ok ⟨text.reverse, finish, gap.any (·.broken), here⟩
    if isEnd s.char then done
    else if isBreak s.char then
      plainFrom flow indent start text finish (some ((gap.getD {}).addBreak s.char)) ss
    else if isBlank s.char then
      if s.char = '\t' ∧ gap.any (·.broken) ∧ (s.mark.column : Int) < indent then
        .error (fault "found a tab character that violates indentation" here
          "while scanning a plain scalar" start)
      else plainFrom flow indent start text finish (some ((gap.getD {}).addBlank s.char)) ss
    else if gap.isSome ∧
        ((!flow ∧ (s.mark.column : Int) < indent) ∨ isDocumentMark here ∨ s.char = '#') then done
    else if flow ∧ s.char = ':' ∧ charAt 0 ss ∈ [',', '?', '[', ']', '\x7b', '\x7d'] then
      .error (fault "found unexpected ':'" here "while scanning a plain scalar" start)
    else if endsPlain flow here then done
    else
      plainFrom flow indent start (s.char :: (gap.map Gap.folded).getD [] ++ text)
        (Spot.nextColumn s.mark) none ss

/-- The value of a digit of base sixteen. -/
def hexDigit? (c : Char) : Option Nat :=
  if c.isDigit then some (c.toNat - 48)
  else if 'a' ≤ c ∧ c ≤ 'f' then some (c.toNat - 87)
  else if 'A' ≤ c ∧ c ≤ 'F' then some (c.toNat - 55)
  else none

/-- What a backslash and a character stand for. -/
inductive Escape where
  | char (c : Char)
  | code (digits : Nat)

def escape? (c : Char) : Option Escape :=
  match c with
  | '0' => some (.char '\x00')
  | 'a' => some (.char '\x07')
  | 'b' => some (.char '\x08')
  | 't' => some (.char '\t')
  | '\t' => some (.char '\t')
  | 'n' => some (.char '\n')
  | 'v' => some (.char '\x0b')
  | 'f' => some (.char '\x0c')
  | 'r' => some (.char '\r')
  | 'e' => some (.char '\x1b')
  | ' ' => some (.char ' ')
  | '"' => some (.char '"')
  | '/' => some (.char '/')
  | '\\' => some (.char '\\')
  | 'N' => some (.char '\u0085')
  | '_' => some (.char '\u00a0')
  | 'L' => some (.char '\u2028')
  | 'P' => some (.char '\u2029')
  | 'x' => some (.code 2)
  | 'u' => some (.code 4)
  | 'U' => some (.code 8)
  | _ => none

/-- What the next character of a quoted scalar does. -/
inductive QuotedStep where
  | close
  /-- A character, written with some number of others behind its first. -/
  | char (c : Char) (more : Nat)
  /-- A line end that is left out, behind its backslash. -/
  | joined
  /-- A fault some characters on. -/
  | failed (problem : String) (distance : Nat)

/-- The character that digits of base sixteen name. -/
def codeStep (digits : Nat) (ss : List Spot) : QuotedStep :=
  match ((ss.take digits).map (·.char)).mapM hexDigit? with
  | some ds =>
    let n := ds.foldl (fun n d => n * 16 + d) 0
    if ds.length < digits then .failed "did not find expected hexdecimal number" 2
    else if (0xD800 ≤ n ∧ n ≤ 0xDFFF) ∨ 0x10FFFF < n then
      .failed "found invalid Unicode character escape code" 2
    else .char (Char.ofNat n) (digits + 1)
  | none => .failed "did not find expected hexdecimal number" 2

def quotedStep (double : Bool) (c : Char) (ss : List Spot) : QuotedStep :=
  if double then
    if c = '"' then .close
    else if c = '\\' then
      if isBreak (charAt 0 ss) then .joined
      else
        match escape? (charAt 0 ss) with
        | some (.char c) => .char c 1
        | some (.code digits) => codeStep digits (ss.drop 1)
        | none => .failed "found unknown escape character" 0
    else .char c 0
  else if c = '\'' then (if charAt 0 ss = '\'' then .char '\'' 1 else .close)
  else .char c 0

/-- Continues a quoted scalar; `skip` characters belong to an escape that has been read. -/
def quotedFrom (double : Bool) (start : Mark) (text : List Char) (gap : Option Gap) (skip : Nat) :
    List Spot → Except YamlError ReadScalar
  | [] => .error (.malformed "found unexpected end of stream" start none)
  | s :: ss =>
    let here := s :: ss
    if skip ≠ 0 then quotedFrom double start text gap (skip - 1) ss
    else if isDocumentMark here then
      .error (fault "found unexpected document indicator" here "while scanning a quoted scalar" start)
    else if isEnd s.char then
      .error (fault "found unexpected end of stream" here "while scanning a quoted scalar" start)
    else if isBreak s.char then
      quotedFrom double start text (some ((gap.getD {}).addBreak s.char)) 0 ss
    else if isBlank s.char then
      quotedFrom double start text (some ((gap.getD {}).addBlank s.char)) 0 ss
    else
      let text := (gap.map Gap.folded).getD [] ++ text
      match quotedStep double s.char ss with
      | .close => .ok ⟨text.reverse, Spot.nextColumn s.mark, false, ss⟩
      | .char c more => quotedFrom double start (c :: text) none more ss
      | .joined => quotedFrom double start text (some { broken := true }) 1 ss
      | .failed problem distance =>
        .error (fault problem (here.drop distance) "while parsing a quoted scalar" start)

/-- What becomes of the line ends behind a block. -/
inductive Chomping where
  | strip
  | clip
  | keep
  deriving DecidableEq, Repr

/-- Line ends and indentation before a line of a block. -/
structure BlockBreaks where
  breaks : List Char
  finish : Mark
  widest : Nat
  rest : List Spot

/-- Passes line ends and spaces up to the block's indentation, which zero leaves open. -/
def blockBreaks (indent : Nat) (start : Mark) (found : BlockBreaks) :
    List Spot → Except YamlError BlockBreaks
  | [] => .ok { found with rest := [] }
  | s :: ss =>
    let inside := indent = 0 ∨ s.mark.column < indent
    let found := { found with widest := max found.widest s.mark.column }
    if s.char = ' ' ∧ inside then blockBreaks indent start found ss
    else if s.char = '\t' ∧ inside then
      .error (fault "found a tab character where an indentation space is expected" (s :: ss)
        "while scanning a block scalar" start)
    else if isBreak s.char then
      blockBreaks indent start
        { found with breaks := s.char :: found.breaks, finish := markOf ss } ss
    else .ok { found with rest := s :: ss }

/-- How a block goes on behind a line of it, in reverse. -/
structure BlockText where
  text : List Char := []
  lineBreak : List Char := []
  breaks : List Char := []
  leadingBlank : Bool := false
  finish : Mark

/-- The text with the line ends before another line, which is folded unless it begins with a blank. -/
def BlockText.joined (folded : Bool) (b : BlockText) (blank : Bool) : List Char :=
  if folded && b.lineBreak == ['\n'] && !b.leadingBlank && !blank then
    b.breaks ++ (if b.breaks.isEmpty then [' '] else []) ++ b.text
  else b.breaks ++ b.lineBreak ++ b.text

/-- Reads line after line of a block; each takes a character, so `count` lines are enough. -/
def blockLines (folded : Bool) (indent : Nat) (start : Mark) :
    Nat → BlockText → List Spot → Except YamlError (BlockText × List Spot)
  | 0, b, ss => .ok (b, ss)
  | count + 1, b, ss =>
    if (markOf ss).column ≠ indent ∨ isEnd (charAt 0 ss) then .ok (b, ss)
    else
      let blank := isBlank (charAt 0 ss)
      let (line, rest) := spanChars (!isBreakOrEnd ·) ss
      let lineBreak := if isBreak (charAt 0 rest) then [charAt 0 rest] else []
      let rest := skipBreak rest
      match blockBreaks indent start ⟨[], markOf rest, 0, []⟩ rest with
      | .error e => .error e
      | .ok found =>
        blockLines folded indent start count
          { text := line.reverse ++ b.joined folded blank, lineBreak, breaks := found.breaks,
            leadingBlank := blank, finish := found.finish }
          found.rest

/-- The chomping sign and the indentation behind the mark of a block, in either order. -/
def blockHeader (start : Mark) (ss : List Spot) :
    Except YamlError (Chomping × Nat × List Spot) :=
  let sign? (c : Char) : Option Chomping :=
    if c = '+' then some .keep else if c = '-' then some .strip else none
  let zero := fault "found an indentation indicator equal to 0" ss "while scanning a block scalar" start
  let digit (ss : List Spot) : Nat × List Spot :=
    if (charAt 0 ss).isDigit then ((charAt 0 ss).toNat - 48, ss.drop 1) else (0, ss)
  match sign? (charAt 0 ss) with
  | some chomping =>
    let ss := ss.drop 1
    if charAt 0 ss = '0' then
      .error (fault "found an indentation indicator equal to 0" ss "while scanning a block scalar" start)
    else .ok (chomping, digit ss)
  | none =>
    if charAt 0 ss = '0' then .error zero
    else
      let (indent, rest) := digit ss
      match if indent = 0 then none else sign? (charAt 0 rest) with
      | some chomping => .ok (chomping, indent, rest.drop 1)
      | none => .ok (.clip, indent, rest)

/-- A block of lines behind its `|` or `>`; `parent` is the indentation around it. -/
def blockScalar (folded : Bool) (parent : Int) (start : Mark) (ss : List Spot) :
    Except YamlError ReadScalar :=
  match blockHeader start ss with
  | .error e => .error e
  | .ok (chomping, increment, rest) =>
    let rest := skipComment (skipChars isBlank rest)
    if !isBreakOrEnd (charAt 0 rest) then
      .error (fault "did not find expected comment or line break" rest
        "while scanning a block scalar" start)
    else
      let rest := skipBreak rest
      let given := if increment = 0 then 0 else parent.toNat + increment
      match blockBreaks given start ⟨[], markOf rest, 0, []⟩ rest with
      | .error e => .error e
      | .ok found =>
        let indent :=
          if given ≠ 0 then given else max (max found.widest (parent + 1).toNat) 1
        match blockLines folded indent start found.rest.length
            { breaks := found.breaks, finish := found.finish } found.rest with
        | .error e => .error e
        | .ok (b, rest) =>
          let text := if chomping = .strip then b.text else b.lineBreak ++ b.text
          let text := if chomping = .keep then b.breaks ++ text else text
          .ok ⟨text.reverse, b.finish, false, rest⟩

end PgMetrics.Yaml
