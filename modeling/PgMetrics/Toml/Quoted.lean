import PgMetrics.Toml.Basic

namespace PgMetrics.Toml

def hexValue? (c : Char) : Option Nat :=
  if c.isDigit then some (c.toNat - 48)
  else if 'a' ≤ c ∧ c ≤ 'f' then some (c.toNat - 87)
  else if 'A' ≤ c ∧ c ≤ 'F' then some (c.toNat - 55)
  else none

/-- The character that digits of base sixteen name, with the count of characters taken. -/
def codePoint (count : Nat) (cs : List Char) : Option (Char × Nat) :=
  match (cs.take count).mapM hexValue? with
  | none => none
  | some ds =>
    let n := ds.foldl (fun n d => n * 16 + d) 0
    if ds.length = count ∧ n.isValidChar then some (Char.ofNat n, count + 1) else none

/-- The character that a backslash before the text stands for, with the count of characters taken. -/
def escape? : List Char → Option (Char × Nat)
  | 'b' :: _ => some ('\x08', 1)
  | 't' :: _ => some ('\t', 1)
  | 'n' :: _ => some ('\n', 1)
  | 'f' :: _ => some ('\x0c', 1)
  | 'r' :: _ => some ('\r', 1)
  | 'e' :: _ => some ('\x1b', 1)
  | '"' :: _ => some ('"', 1)
  | '\\' :: _ => some ('\\', 1)
  | 'x' :: cs => codePoint 2 cs
  | 'u' :: cs => codePoint 4 cs
  | 'U' :: cs => codePoint 8 cs
  | _ => none

/-- How a quoted text is read. -/
structure Quotation where
  quote : Char
  lines : Bool

namespace Quotation

def hasEscapes (q : Quotation) : Bool :=
  q.quote == '"'

/-- Closes a text of several lines at three quotes. Up to two more before them belong to the text. -/
def close? (q : Quotation) (text cs : List Char) : Option (List Char × List Char) :=
  let more := (cs.takeWhile (· == q.quote)).length
  if !q.lines then some (text.reverse, cs)
  else if more < 2 then none
  else
    let inside := min (more - 2) 2
    some (text.reverse ++ List.replicate inside q.quote, cs.drop (inside + 2))

/-- Continues a text, of which the characters so far are in reverse. `skip` characters belong to what has
been read, and `joining` passes the blanks and line ends behind a backslash at the end of a line. -/
def textFrom (q : Quotation) (text : List Char) (skip : Nat) (joining : Bool) :
    List Char → Option (List Char × List Char)
  | [] => none
  | c :: cs =>
    if skip ≠ 0 then textFrom q text (skip - 1) joining cs
    else if joining && (isBlank c || atLineEnd (c :: cs)) then textFrom q text 0 true cs
    else if c = q.quote then
      match q.close? text cs with
      | some r => some r
      | none => textFrom q (c :: text) 0 false cs
    else if q.hasEscapes && c == '\\' then
      if q.lines && atLineEnd (skipBlanks cs) then textFrom q text 0 true cs
      else
        match escape? cs with
        | some (e, taken) => textFrom q (e :: text) taken false cs
        | none => none
    else if atLineEnd (c :: cs) then (if q.lines then textFrom q (c :: text) 0 false cs else none)
    else if isControl c && c != '\t' then none
    else textFrom q (c :: text) 0 false cs

end Quotation

/-- Passes a line end directly behind the opening quotes. -/
def skipLineEnd : List Char → List Char
  | '\n' :: cs => cs
  | '\r' :: '\n' :: cs => cs
  | cs => cs

/-- A text behind its first quote, in one line. -/
def lineText (quote : Char) (cs : List Char) : Option (String × List Char) :=
  (Quotation.textFrom ⟨quote, false⟩ [] 0 false cs).map fun (text, rest) => (String.ofList text, rest)

/-- A text behind its first quote, in one line or, behind three quotes, in several. -/
def anyText (quote : Char) (cs : List Char) : Option (String × List Char) :=
  if cs.take 2 = [quote, quote] then
    (Quotation.textFrom ⟨quote, true⟩ [] 0 false (skipLineEnd (cs.drop 2))).map fun (text, rest) =>
      (String.ofList text, rest)
  else lineText quote cs

example : (anyText '"' "a\\u00e9\" x".toList).map (·.1) = some "aé" := by decide +kernel
example : (anyText '\'' "''\nb''''".toList).map (·.1) = some "b'" := by decide +kernel
example : anyText '"' "\\q\"".toList = none := by decide +kernel

end PgMetrics.Toml
