import PgMetrics.Dsn.KeyValue
import PgMetrics.Dsn.Locator
import PgMetrics.Failure
import PgMetrics.Url.Reader

namespace PgMetrics.Dsn

def schemes : List (List Char) :=
  ["postgres".toList, "postgresql".toList]

/-- The text behind the scheme of a URL. -/
def behindScheme? (cs scheme : List Char) : Option (List Char × List Char) :=
  let start := scheme ++ "://".toList
  if start.isPrefixOf cs then some (scheme, cs.drop start.length) else none

/-- Scheme and rest of a connection string that is a URL. -/
def url? (dsn : String) : Option (List Char × List Char) :=
  schemes.findSome? (behindScheme? dsn.toList)

/-- What a connection string says. -/
def settings? (dsn : String) : Option ConnectionSettings :=
  match url? dsn with
  | some (_, rest) => Locator.read rest
  | none => KeyValue.read dsn.toList

def mask : List Char := "PASSWORD_REMOVED".toList

/-- The text behind `name = `, if the text begins with it, and the part passed over. -/
def assignment? (name cs : List Char) : Option (List Char × List Char) :=
  if name.isPrefixOf cs then
    let behindName := cs.drop name.length
    let blanks := behindName.takeWhile Text.isBlank
    match behindName.dropWhile Text.isBlank with
    | '=' :: behind =>
      some (name ++ blanks ++ '=' :: behind.takeWhile Text.isBlank, behind.dropWhile Text.isBlank)
    | _ => none
  else none

/-- The rest behind a closing quote. A backslash protects any character but a line end. -/
def behindQuoted? (escaped : Bool) : List Char → Option (List Char)
  | [] => none
  | c :: cs =>
    if escaped then (if c = '\n' then none else behindQuoted? false cs)
    else if c = '\'' then some cs
    else behindQuoted? (c == '\\') cs

/-- The rest behind a value in quotes, or else behind a run without blanks, which must not be empty. -/
def behindValue? (cs : List Char) : Option (List Char) :=
  let plain := if cs.head?.any (!Text.isBlank ·) then some (cs.dropWhile (!Text.isBlank ·)) else none
  match cs with
  | '\'' :: rest => (behindQuoted? false rest).or plain
  | _ => plain

/-- An assignment of a value at the start of the text: the part before the value, and the rest behind it. -/
def assigned? (name cs : List Char) : Option (List Char × List Char) :=
  match assignment? name cs with
  | some (head, rest) => (behindValue? rest).map fun rest => (head, rest)
  | none => none

/-- The text with the mask for every value assigned to `password`. The count bounds the characters left. -/
def maskValues : Nat → List Char → List Char
  | 0, cs => cs
  | _, [] => []
  | count + 1, c :: cs =>
    match assigned? "password".toList (c :: cs) with
    | some (head, rest) => head ++ mask ++ maskValues count rest
    | none => c :: maskValues count cs

/-- The connection string for the eyes of others. -/
def redact (dsn : String) : String :=
  match url? dsn with
  | some (scheme, rest) =>
    match Url.read scheme rest with
    | .ok u => String.ofList (u.maskPassword mask).write
    | .error _ => "could not parse connection string"
  | none => String.ofList (maskValues dsn.length dsn.toList)

/-- Replaces the value of the first `dbname` that stands at the start or behind a blank. -/
def replaceDatabase? (value : List Char) (start : Bool) : List Char → Option (List Char)
  | [] => none
  | c :: cs =>
    match if start then assigned? "dbname".toList (c :: cs) else none with
    | some (_, rest) => some ("dbname=".toList ++ value ++ rest)
    | none => (replaceDatabase? value (Text.isBlank c) cs).map (c :: ·)

/-- A setting at the end of others. -/
def appendDatabase (value cs : List Char) : List Char :=
  match Text.trimEndChars cs with
  | [] => "dbname=".toList ++ value
  | cs => cs ++ " dbname=".toList ++ value

/-- The connection string, but for another database. -/
def selectDatabase (dsn database : String) : Except Failure String :=
  match url? dsn with
  | some (scheme, rest) =>
    match Url.read scheme rest with
    | .ok u => .ok (String.ofList (u.withPath (Url.pathOf database.toList)).write)
    | .error e => .error ((Failure.of (.url e)).during (.readingConnectionString (redact dsn)))
  | none =>
    let value := KeyValue.quote database.toList
    .ok (String.ofList
      ((replaceDatabase? value true dsn.toList).getD (appendDatabase value dsn.toList)))

end PgMetrics.Dsn
