import PgMetrics.Toml.Quoted

namespace PgMetrics.Toml

def isKeyChar (c : Char) : Bool :=
  c.isAlphanum || c == '_' || c == '-'

/-- One name of a key. -/
def keyPart : List Char → Option (String × List Char)
  | '"' :: cs => lineText '"' cs
  | '\'' :: cs => lineText '\'' cs
  | cs =>
    match cs.takeWhile isKeyChar with
    | [] => none
    | name => some (String.ofList name, cs.dropWhile isKeyChar)

/-- Names with points between them. Each takes a character, so `count` names are enough. -/
def key : Nat → List Char → Option (List String × List Char)
  | 0, _ => none
  | count + 1, cs =>
    match keyPart cs with
    | none => none
    | some (name, rest) =>
      match skipBlanks rest with
      | '.' :: rest => (key count (skipBlanks rest)).map fun (names, rest) => (name :: names, rest)
      | rest => some ([name], rest)

/-- Digits of a base, with single underscores between them. -/
def digits? (base : Nat) (cs : List Char) : Option Nat :=
  let groups := Text.pieces '_' cs
  if groups.any (·.isEmpty) then none
  else
    match groups.flatten.mapM hexValue? with
    | none => none
    | some ds =>
      if ds.all (· < base) then some (ds.foldl (fun n d => n * base + d) 0) else none

/-- A number in decimal, which starts with a zero only if it is one. -/
def decimal? : List Char → Option Nat
  | ['0'] => some 0
  | '0' :: _ => none
  | cs => digits? 10 cs

def integer? : List Char → Option Int
  | '+' :: cs => (decimal? cs).map fun n => (n : Int)
  | '-' :: cs => (decimal? cs).map fun n => -(n : Int)
  | '0' :: 'x' :: cs => (digits? 16 cs).map fun n => (n : Int)
  | '0' :: 'o' :: cs => (digits? 8 cs).map fun n => (n : Int)
  | '0' :: 'b' :: cs => (digits? 2 cs).map fun n => (n : Int)
  | cs => (decimal? cs).map fun n => (n : Int)

def isWordChar (c : Char) : Bool :=
  isKeyChar c || c == '+' || c == '.' || c == ':'

/-- A truth value or an integer. -/
def word (cs : List Char) : Option (TomlValue × List Char) :=
  let rest := cs.dropWhile isWordChar
  match String.ofList (cs.takeWhile isWordChar) with
  | "true" => some (.boolean true, rest)
  | "false" => some (.boolean false, rest)
  | s => (integer? s.toList).map fun n => (.integer n, rest)

mutual

/-- A value; the count bounds how deep values nest. -/
def value : Nat → List Char → Option (TomlValue × List Char)
  | 0, _ => none
  | count + 1, cs =>
    match cs with
    | '"' :: cs => (anyText '"' cs).map fun (s, rest) => (.string s, rest)
    | '\'' :: cs => (anyText '\'' cs).map fun (s, rest) => (.string s, rest)
    | '[' :: cs =>
      (elements count (skipSpace false cs)).map fun (vs, rest) => (.array vs, rest)
    | '\x7b' :: cs =>
      (fields count (skipSpace false cs)).map fun (fs, rest) => (.table fs, rest)
    | cs => word cs

/-- Values with commas between them, up to the bracket that closes their array. -/
def elements : Nat → List Char → Option (List TomlValue × List Char)
  | 0, _ => none
  | _, ']' :: rest => some ([], rest)
  | count + 1, cs =>
    match value count cs with
    | none => none
    | some (v, rest) =>
      match skipSpace false rest with
      | ']' :: rest => some ([v], rest)
      | ',' :: rest =>
        (elements count (skipSpace false rest)).map fun (vs, rest) => (v :: vs, rest)
      | _ => none

/-- Settings with commas between them, up to the brace that closes their table. -/
def fields : Nat → List Char → Option (List (List String × TomlValue) × List Char)
  | 0, _ => none
  | _, '\x7d' :: rest => some ([], rest)
  | count + 1, cs =>
    match setting count cs with
    | none => none
    | some (f, rest) =>
      match skipSpace false rest with
      | '\x7d' :: rest => some ([f], rest)
      | ',' :: rest =>
        (fields count (skipSpace false rest)).map fun (fs, rest) => (f :: fs, rest)
      | _ => none

def setting : Nat → List Char → Option ((List String × TomlValue) × List Char)
  | 0, _ => none
  | count + 1, cs =>
    match key cs.length cs with
    | some (path, '=' :: rest) =>
      (value count (skipBlanks rest)).map fun (v, rest) => ((path, v), rest)
    | _ => none

end

/-- A name of a table in brackets, or a setting. -/
def statement (count : Nat) (cs : List Char) : Option (Statement × List Char) :=
  match cs with
  | '[' :: cs =>
    match key cs.length (skipBlanks cs) with
    | some (path, ']' :: rest) => some (.header path, rest)
    | _ => none
  | cs => (setting count cs).map fun ((path, v), rest) => (.setting path v, rest)

/-- Statement after statement, each in lines of its own. -/
def statements (size : Nat) : Nat → List Char → Option (List Statement)
  | 0, _ => none
  | count + 1, cs =>
    match skipSpace false cs with
    | [] => some []
    | cs =>
      match statement size cs with
      | none => none
      | some (s, rest) =>
        match endLine rest with
        | none => none
        | some rest => (statements size count rest).map (s :: ·)

/-- The statements of a document, without a byte order mark before them. -/
def read (s : String) : Option (List Statement) :=
  let cs :=
    match s.toList with
    | '\uFEFF' :: cs => cs
    | cs => cs
  statements (3 * cs.length + 3) (cs.length + 1) cs

end PgMetrics.Toml
