import PgMetrics.Url.Percent
import PgMetrics.Yaml.Spot
import PgMetrics.Yaml.Token

namespace PgMetrics.Yaml

def isTagChar (verbatim : Bool) (c : Char) : Bool :=
  isWord c ||
    c ∈ [';', '/', '?', ':', '@', '&', '=', '+', '$', '.', '%', '!', '~', '*', '\'', '(', ')'] ||
    (verbatim && c ∈ [',', '[', ']'])

/-- The parts of messages that tell a tag from the directive that declares tags. -/
structure TagPlace where
  directive : Bool
  start : Mark

namespace TagPlace

def handleContext (p : TagPlace) : String :=
  if p.directive then "while scanning a tag directive" else "while scanning a tag"

def uriContext (p : TagPlace) : String :=
  if p.directive then "while parsing a %TAG directive" else "while parsing a tag"

end TagPlace

/-- How many bytes a character has by its first one. -/
def widthOf (b : Nat) : Nat :=
  if b < 0x80 then 1
  else if b / 0x20 = 6 then 2
  else if b / 0x10 = 14 then 3
  else if b / 8 = 30 then 4
  else 0

/-- One encoded byte. -/
def escapedByte? (ss : List Spot) : Option Nat :=
  if charAt 0 ss = '%' then
    match hex? (charAt 1 ss), hex? (charAt 2 ss) with
    | some h, some l => some (h * 16 + l)
    | _, _ => none
  else none
where
  hex? := Percent.hexValue?

/-- The further bytes of a character. -/
def escapedTail (p : TagPlace) : Nat → List UInt8 → List Spot →
    Except YamlError (List UInt8 × List Spot)
  | 0, bytes, ss => .ok (bytes, ss)
  | n + 1, bytes, ss =>
    match escapedByte? ss with
    | none => .error (fault "did not find URI escaped octet" ss p.uriContext p.start)
    | some b =>
      if b / 0x40 = 2 then escapedTail p n (bytes ++ [UInt8.ofNat b]) (ss.drop 3)
      else .error (fault "found an incorrect trailing UTF-8 octet" ss p.uriContext p.start)

/-- One percent-encoded character. -/
def escapedChar (p : TagPlace) (ss : List Spot) : Except YamlError (List Char × List Spot) :=
  match escapedByte? ss with
  | none => .error (fault "did not find URI escaped octet" ss p.uriContext p.start)
  | some b =>
    if widthOf b = 0 then
      .error (fault "found an incorrect leading UTF-8 octet" ss p.uriContext p.start)
    else
      (escapedTail p (widthOf b - 1) [UInt8.ofNat b] (ss.drop 3)).map fun (bytes, rest) =>
        (Text.decodeReplacing bytes, rest)

/-- The characters of a tag, in reverse; each takes at least one, so `count` steps are enough. -/
def tagChars (p : TagPlace) (verbatim : Bool) :
    Nat → List Char → List Spot → Except YamlError (List Char × List Spot)
  | 0, text, ss => .ok (text, ss)
  | count + 1, text, ss =>
    let c := charAt 0 ss
    if !isTagChar verbatim c then .ok (text, ss)
    else if c = '%' then
      match escapedChar p ss with
      | .error e => .error e
      | .ok (cs, rest) => tagChars p verbatim count (cs.reverse ++ text) rest
    else tagChars p verbatim count (c :: text) (ss.drop 1)

/-- The text of a tag behind a head that has been read; not both may be empty. -/
def tagText (p : TagPlace) (verbatim : Bool) (head : List Char) (ss : List Spot) :
    Except YamlError (List Char × List Spot) :=
  match tagChars p verbatim ss.length [] ss with
  | .error e => .error e
  | .ok (text, rest) =>
    if head.isEmpty && text.isEmpty then
      .error (fault "did not find expected tag URI" rest p.uriContext p.start)
    else .ok (head.drop 1 ++ text.reverse, rest)

/-- A handle such as `!`, `!!` or `!name!`; without its second mark it may be the start of a tag. -/
def tagHandle (p : TagPlace) (ss : List Spot) : Except YamlError (List Char × List Spot) :=
  if charAt 0 ss ≠ '!' then .error (fault "did not find expected '!'" ss p.handleContext p.start)
  else
    let (name, rest) := spanChars isWord (ss.drop 1)
    if charAt 0 rest = '!' then .ok ('!' :: name ++ ['!'], rest.drop 1)
    else if p.directive ∧ name ≠ [] then
      .error (fault "did not find expected '!'" rest "while parsing a tag directive" p.start)
    else .ok ('!' :: name, rest)

/-- Handle and suffix of a tag. -/
def tagParts (p : TagPlace) (ss : List Spot) :
    Except YamlError ((List Char × List Char) × List Spot) :=
  if charAt 1 ss = '<' then
    match tagText p true [] (ss.drop 2) with
    | .error e => .error e
    | .ok (text, rest) =>
      if charAt 0 rest = '>' then .ok (([], text), rest.drop 1)
      else .error (fault "did not find the expected '>'" rest "while scanning a tag" p.start)
  else
    match tagHandle p ss with
    | .error e => .error e
    | .ok (handle, rest) =>
      if handle.length > 1 ∧ handle.getLast? = some '!' then
        (tagText p false [] rest).map fun (text, rest) => ((handle, text), rest)
      else
        (tagText p false handle rest).map fun (text, rest) =>
          (if text.isEmpty then ([], ['!']) else (['!'], text), rest)

/-- A tag, which ends at a blank or, between brackets, at a comma. -/
def scanTag (flow : Bool) (ss : List Spot) : Except YamlError (Token × List Spot) :=
  let start := markOf ss
  match tagParts ⟨false, start⟩ ss with
  | .error e => .error e
  | .ok ((handle, suffix), rest) =>
    if isSpace (charAt 0 rest) || (flow && charAt 0 rest == ',') then
      .ok (⟨.tag handle suffix, start, markOf rest⟩, rest)
    else
      .error (fault "did not find expected whitespace or line break" rest "while scanning a tag" start)

/-- An anchor or an alias by its name. -/
def scanAnchor (ss : List Spot) : Except YamlError (Token × List Spot) :=
  let start := markOf ss
  let anchor := charAt 0 ss == '&'
  let (name, rest) := spanChars isWord (ss.drop 1)
  if name.isEmpty ||
      !(isSpace (charAt 0 rest) || charAt 0 rest ∈ ['?', ':', ',', ']', '\x7d', '%', '@', '\x60']) then
    .error (fault "did not find expected alphabetic or numeric character" rest
      (if anchor then "while scanning an anchor" else "while scanning an alias") start)
  else .ok (⟨if anchor then .anchor name else .alias name, start, markOf rest⟩, rest)

/-- A number of a version, of at most nine digits. -/
def versionNumber (start : Mark) (ss : List Spot) : Except YamlError (Nat × List Spot) :=
  let (digits, rest) := spanChars Char.isDigit ss
  if digits.length > 9 then
    .error (fault "found extremely long version number" (ss.drop 9)
      "while scanning a %YAML directive" start)
  else if digits.isEmpty then
    .error (fault "did not find expected version number" rest "while scanning a %YAML directive" start)
  else .ok (digits.foldl (fun n c => n * 10 + (c.toNat - 48)) 0, rest)

def scanVersion (start : Mark) (ss : List Spot) : Except YamlError (TokenKind × List Spot) :=
  match versionNumber start (skipChars isBlank ss) with
  | .error e => .error e
  | .ok (major, rest) =>
    if charAt 0 rest ≠ '.' then
      .error (fault "did not find expected digit or '.' character" rest
        "while scanning a %YAML directive" start)
    else
      (versionNumber start (rest.drop 1)).map fun (minor, rest) => (.version major minor, rest)

def scanTagDirective (start : Mark) (ss : List Spot) : Except YamlError (TokenKind × List Spot) :=
  match tagHandle ⟨true, start⟩ (skipChars isBlank ss) with
  | .error e => .error e
  | .ok (handle, rest) =>
    if !isBlank (charAt 0 rest) then
      .error (fault "did not find expected whitespace" rest "while scanning a %TAG directive" start)
    else
      match tagText ⟨true, start⟩ true [] (skipChars isBlank rest) with
      | .error e => .error e
      | .ok (text, rest) =>
        if isSpace (charAt 0 rest) then .ok (.tagDirective handle text, rest)
        else
          .error (fault "did not find expected whitespace or line break" rest
            "while scanning a %TAG directive" start)

/-- The kind of a directive, by its name. -/
def directiveKind (start : Mark) (ss : List Spot) : Except YamlError (TokenKind × List Spot) :=
  let (name, rest) := spanChars isWord ss
  if name.isEmpty then
    .error (fault "could not find expected directive name" rest "while scanning a directive" start)
  else if !isSpace (charAt 0 rest) then
    .error (fault "found unexpected non-alphabetical character" rest "while scanning a directive" start)
  else if name = "YAML".toList then scanVersion start rest
  else if name = "TAG".toList then scanTagDirective start rest
  else .error (fault "found unknown directive name" rest "while scanning a directive" start)

/-- A directive, which takes its whole line. -/
def scanDirective (ss : List Spot) : Except YamlError (Token × List Spot) :=
  let start := markOf ss
  match directiveKind start (ss.drop 1) with
  | .error e => .error e
  | .ok (kind, rest) =>
    let finish := markOf rest
    let rest := skipComment (skipChars isBlank rest)
    if isBreakOrEnd (charAt 0 rest) then .ok (⟨kind, start, finish⟩, skipBreak rest)
    else
      .error (fault "did not find expected comment or line break" rest "while scanning a directive"
        start)

end PgMetrics.Yaml
