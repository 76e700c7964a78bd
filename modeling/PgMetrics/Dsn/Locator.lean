import PgMetrics.Dsn.Settings
import PgMetrics.Url.Percent

namespace PgMetrics.Locator

/-- The text before the first of some marks, and the rest from the mark on. -/
def upTo (marks : List Char) (cs : List Char) : List Char × List Char :=
  (cs.takeWhile (!marks.contains ·), cs.dropWhile (!marks.contains ·))

/-- Credentials end at the first `@` and are split at the first `:`. -/
def readCredentials (c : ConnectionSettings) (cs : List Char) :
    Option (ConnectionSettings × List Char) :=
  match upTo ['@'] cs with
  | (_, []) => some (c, cs)
  | (credentials, _ :: rest) =>
    match upTo [':'] credentials with
    | (user, password) =>
      match Percent.decodeText user with
      | none => none
      | some user =>
        let c := { c with user := some user }
        match password with
        | [] => some (c, rest)
        | _ :: password => some ({ c with password := some (Percent.decode password) }, rest)

/-- A host that begins with a slash is a directory, whose name need not be text. -/
def addHost (c : ConnectionSettings) (cs : List Char) : Option ConnectionSettings :=
  let bytes := Percent.decode cs
  if bytes.head? = some 0x2F then some { c with hosts := c.hosts ++ [.socket bytes] }
  else
    (Text.decode ⟨bytes.toArray⟩).map fun host => { c with hosts := c.hosts ++ [.name host] }

/-- A host and the text of its port. Brackets protect the colons of an address. -/
def splitPort : List Char → Option (List Char × List Char)
  | '[' :: cs =>
    match upTo [']'] cs with
    | (_, []) => none
    | (host, [_]) => some (host, "5432".toList)
    | (host, _ :: ':' :: port) => some (host, port)
    | _ => none
  | cs =>
    match upTo [':'] cs with
    | (host, []) => some (host, "5432".toList)
    | (host, _ :: port) => some (host, port)

def addPlace (c : ConnectionSettings) (cs : List Char) : Option ConnectionSettings :=
  match splitPort cs with
  | none => none
  | some (host, port) =>
    match addHost c host, Percent.decodeText port with
    | some c, some port => c.set "port" port
    | _, _ => none

def addPlaces (c : ConnectionSettings) : List (List Char) → Option ConnectionSettings
  | [] => some c
  | place :: places =>
    match addPlace c place with
    | some c => addPlaces c places
    | none => none

def readHosts (c : ConnectionSettings) (cs : List Char) : Option ConnectionSettings :=
  if cs.isEmpty then some c else addPlaces c (Text.pieces ',' cs)

/-- The database behind a slash, if there is one. -/
def readDatabase (c : ConnectionSettings) : List Char → Option ConnectionSettings
  | [] => some c
  | '/' :: name =>
    if name.isEmpty then some c
    else (Percent.decodeText name).map fun name => { c with dbname := some name }
  | _ => some c

/-- A host is added as it is; its commas do not separate. -/
def addParameter (c : ConnectionSettings) (key value : List Char) : Option ConnectionSettings :=
  match Percent.decodeText key with
  | none => none
  | some key =>
    if key = "host" then addHost c value
    else
      match Percent.decodeText value with
      | some value => c.set key value
      | none => none

theorem upTo_length (marks cs : List Char) : (upTo marks cs).2.length ≤ cs.length :=
  (List.dropWhile_suffix _).length_le

/-- Parameters `key=value`, separated by `&`. A key without a value is refused. -/
def readParameters (c : ConnectionSettings) (cs : List Char) : Option ConnectionSettings :=
  match cs with
  | [] => some c
  | d :: ds =>
    match _hk : upTo ['='] (d :: ds) with
    | (_, []) => none
    | (key, _ :: behind) =>
      match addParameter c key (upTo ['&'] behind).1 with
      | none => none
      | some c => readParameters c ((upTo ['&'] behind).2.drop 1)
termination_by cs.length
decreasing_by
  have h1 := upTo_length ['='] (d :: ds)
  have h2 := upTo_length ['&'] behind
  simp only [_hk, List.length_drop, List.length_cons] at *
  omega

/-- The settings of a text `user:password@host:port/dbname?key=value` behind the scheme and its slashes. Every part is
percent-decoded. -/
def read (cs : List Char) : Option ConnectionSettings :=
  match readCredentials {} cs with
  | none => none
  | some (c, rest) =>
    let (hosts, rest) := upTo ['/', '?'] rest
    match readHosts c hosts with
    | none => none
    | some c =>
      let (path, rest) := if rest.head? = some '/' then upTo ['?'] rest else ([], rest)
      match readDatabase c path with
      | none => none
      | some c => readParameters c (rest.drop 1)

end PgMetrics.Locator
