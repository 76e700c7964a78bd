import PgMetrics.Yaml.Error

namespace PgMetrics.Yaml

structure Spot where
  char : Char
  mark : Mark
  deriving DecidableEq, Repr

namespace Spot

def endMark : Char := '\x00'

/-- Whether a character may stand in a text. -/
def isAllowed (c : Char) : Bool :=
  let n := c.toNat
  n == 0x09 || n == 0x0A || n == 0x0D || (0x20 ≤ n && n ≤ 0x7E) || n == 0x85 ||
    (0xA0 ≤ n && n ≤ 0xD7FF) || (0xE000 ≤ n && n ≤ 0xFFFD) || 0x10000 ≤ n

/-- The offset in bytes of the first character that may not stand in a text. -/
def forbidden? (offset : Nat) : List Char → Option Nat
  | [] => none
  | c :: cs => if isAllowed c then forbidden? (offset + c.utf8Size) cs else some offset

def nextLine (m : Mark) (width : Nat) : Mark :=
  ⟨m.index + width, m.line + 1, 0⟩

def nextColumn (m : Mark) : Mark :=
  ⟨m.index + 1, m.line, m.column + 1⟩

/-- The characters from a place on. -/
def ofChars (m : Mark) : List Char → List Spot
  | [] => [⟨endMark, m⟩]
  | '\r' :: '\n' :: cs => ⟨'\n', m⟩ :: ofChars (nextLine m 2) cs
  | c :: cs =>
    if c = '\r' ∨ c = '\n' ∨ c = '\u0085' then ⟨'\n', m⟩ :: ofChars (nextLine m 1) cs
    else if c = '\u2028' ∨ c = '\u2029' then ⟨c, m⟩ :: ofChars (nextLine m 1) cs
    else ⟨c, m⟩ :: ofChars (nextColumn m) cs

/-- The characters of a text, without a byte order mark before it. Every line end but the two Unicode separators is
one line feed, and a NUL marks the end. -/
def ofText (s : String) : Except YamlError (List Spot) :=
  let (offset, cs) :=
    match s.toList with
    | '\uFEFF' :: cs => (3, cs)
    | cs => (0, cs)
  match forbidden? offset cs with
  | some n => .error (.forbidden n)
  | none => .ok (ofChars .start cs)

end Spot

def isBreak (c : Char) : Bool :=
  c == '\n' || c == '\u2028' || c == '\u2029'

def isBlank (c : Char) : Bool :=
  c == ' ' || c == '\t'

def isEnd (c : Char) : Bool :=
  c == Spot.endMark

/-- A line end or the end of the text. -/
def isBreakOrEnd (c : Char) : Bool :=
  isBreak c || isEnd c

def isSpace (c : Char) : Bool :=
  isBlank c || isBreakOrEnd c

def isWord (c : Char) : Bool :=
  c.isAlphanum || c == '_' || c == '-'

/-- The character at a distance. -/
def charAt (n : Nat) (ss : List Spot) : Char :=
  ((ss[n]?).map (·.char)).getD Spot.endMark

/-- The place of the first character. -/
def markOf : List Spot → Mark
  | [] => .start
  | s :: _ => s.mark

/-- The characters that satisfy a condition, and the rest. -/
def spanChars (p : Char → Bool) (ss : List Spot) : List Char × List Spot :=
  ((ss.takeWhile (p ·.char)).map (·.char), ss.dropWhile (p ·.char))

def skipChars (p : Char → Bool) (ss : List Spot) : List Spot :=
  ss.dropWhile (p ·.char)

/-- A comment up to the end of its line. -/
def skipComment (ss : List Spot) : List Spot :=
  if charAt 0 ss = '#' then skipChars (!isBreakOrEnd ·) ss else ss

def skipBreak (ss : List Spot) : List Spot :=
  if isBreak (charAt 0 ss) then ss.drop 1 else ss

/-- Three hyphens or three full stops at the start of a line, not followed by more text. -/
def isDocumentMark (ss : List Spot) : Bool :=
  (markOf ss).column == 0 && isSpace (charAt 3 ss) &&
    ((ss.take 3).map (·.char) == ['-', '-', '-'] || (ss.take 3).map (·.char) == ['.', '.', '.'])

/-- A fault at a place, found while something that began earlier was read. -/
def fault (problem : String) (ss : List Spot) (context : String) (start : Mark) : YamlError :=
  .malformed problem (markOf ss) (some (context, start))

end PgMetrics.Yaml
