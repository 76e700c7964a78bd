import PgMetrics.Session.World
import PgMetrics.Url.Percent

namespace PgMetrics.DataSources

/-- Letters, digits and the marks that need no encoding between the slashes and the `@` of a URL. -/
def isPlain (c : Char) : Bool :=
  c.isAlphanum || c ∈ ['-', '_', '.', '~', '$', '&', '+', ',', ';', '=']

def encode (s : String) : String :=
  String.ofList (Percent.encode (!isPlain ·) s.toList)

/-- The connection strings that a list names. -/
def ofNames (names : String) : List String :=
  ((Text.split ',' names).map Text.trim).filter (!·.isEmpty)

def ofParts (user password location : String) : String :=
  "postgresql://" ++ encode user ++ ":" ++ encode password ++ "@" ++ location

variable {m : Type → Type} [Monad m] (w : World m)

/-- A variable that is set to more than nothing. -/
def nonEmpty? (name : String) : m (Option String) := do
  return (← w.environment name).filter (!·.isEmpty)

/-- A secret, from the file that a variable names or else from a variable itself. -/
def secret (fileVariable valueVariable : String) : m (Except Failure String) := do
  match ← nonEmpty? w fileVariable with
  | none => return .ok ((← w.environment valueVariable).getD "")
  | some path =>
    match ← w.readText path with
    | .ok s => return .ok (Text.trim s)
    | .error e => return .error ((Failure.of (.file e)).during (.readingVariable fileVariable path))

/-- A list of connection strings in one variable wins; else one is put together from a location, a user and a
password. -/
def read : m (Except Failure (List String)) := do
  match ← nonEmpty? w "DATA_SOURCE_NAME" with
  | some names => return .ok (ofNames names)
  | none =>
    match ← nonEmpty? w "DATA_SOURCE_URI" with
    | none => return .ok []
    | some location =>
      match ← secret w "DATA_SOURCE_USER_FILE" "DATA_SOURCE_USER" with
      | .error e => return .error e
      | .ok user =>
        match ← secret w "DATA_SOURCE_PASS_FILE" "DATA_SOURCE_PASS" with
        | .error e => return .error e
        | .ok password => return .ok [ofParts user password location]

end PgMetrics.DataSources
