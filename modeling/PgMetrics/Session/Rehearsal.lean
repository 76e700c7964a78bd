import PgMetrics.Session.World

namespace PgMetrics

/-- Files by the names that lead to them from the working directory. -/
abbrev FileTree := List (List String × ByteArray)

namespace FileTree

def isDirectory (files : FileTree) (names : List String) : Bool :=
  names.isEmpty || files.any fun (other, _) => other != names && names.isPrefixOf other

/-- Follows names from a directory; nothing outside of the working directory is there. -/
def follow (files : FileTree) : List String → List String → Except FileError (List String)
  | at_, [] => .ok at_
  | at_, name :: names =>
    if (files.lookup at_).isSome then .error .notDirectory
    else if !files.isDirectory at_ then .error .notFound
    else if name.utf8ByteSize > 255 then .error .nameTooLong
    else if name = "" ∨ name = "." then follow files at_ names
    else if name = ".." then
      if at_.isEmpty then .error .notFound else follow files at_.dropLast names
    else follow files (at_ ++ [name]) names

/-- The names that a path leads through. -/
def resolve (files : FileTree) (path : String) : Except FileError (List String) :=
  if path.toList.contains '\x00' then .error .nulInName
  else if path.isEmpty || path.startsWith "/" then .error .notFound
  else files.follow [] (Text.split '/' path)

def contentOf (files : FileTree) (path : String) : Except FileError ByteArray :=
  match files.resolve path with
  | .error e => .error e
  | .ok names =>
    match files.lookup names with
    | some bytes => .ok bytes
    | none => .error (if files.isDirectory names then .isDirectory else .notFound)

def put (files : FileTree) (names : List String) (content : Option ByteArray) : FileTree :=
  let others := files.filter (·.1 != names)
  match content with
  | some bytes => others ++ [(names, bytes)]
  | none => others

def withoutSlashes (path : String) : String :=
  String.ofList (path.toList.reverse.dropWhile (· == '/')).reverse

/-- Writes a file, which may be new but not its directory. A path with a slash at its end names no file. -/
def save (files : FileTree) (path text : String) : Except FileError FileTree :=
  match files.resolve (if path.endsWith "/" then withoutSlashes path else path) with
  | .error e => .error e
  | .ok names =>
    if path.endsWith "/" || files.isDirectory names then .error .isDirectory
    else .ok (files.put names (some (Text.encode text)))

end FileTree

/-- What is asked of servers. -/
inductive Event where
  | connect (session : Session)
  | ping (session : Session)
  | query (session : Session) (sql : String)
  | close (session : Session)
  deriving DecidableEq, Repr

/-- Servers, files and variables that are given beforehand, and a record of all that is asked of them. -/
structure Rehearsal where
  /-- What the servers say, by their fingerprints. -/
  connecting : String → Except Failure Unit
  pinging : String → Except Failure Unit
  answering : String → String → Except Failure Answer
  files : FileTree := []
  environment : List (String × String) := []
  /-- What a look at the clock shows, and how much later the next one is. -/
  time : Float := 0.0
  lapse : Float := 0.0
  events : List Event := []
  log : List LogEntry := []
  output : String := ""
  errors : String := ""
  exitCode : Option Nat := none

namespace Rehearsal

abbrev Run := StateM Rehearsal

def note (e : Event) : Run Unit :=
  modify fun r => { r with events := r.events ++ [e] }

def writeLog (e : LogEntry) : Run Unit :=
  modify fun r => { r with log := r.log ++ [e] }

def servers : Servers Run where
  connect s := do
    note (.connect s)
    return (← get).connecting s.target.fingerprint
  ping s := do
    note (.ping s)
    return (← get).pinging s.target.fingerprint
  query s sql := do
    note (.query s sql)
    return (← get).answering s.target.fingerprint sql
  close s := note (.close s)

/-- The surroundings, with servers of one's own. -/
def worldWith (servers : Servers Run) : World Run :=
  { servers with
    contentOf := fun path => do return (← get).files.contentOf path
    save := fun path text => do
      match (← get).files.save path text with
      | .error e => return .error e
      | .ok files => do
        modify fun r => { r with files }
        return .ok ()
    environment := fun name => do return (← get).environment.lookup name
    log := writeLog
    clock := do
      let now := (← get).time
      modify fun r => { r with time := r.time + r.lapse }
      return now
    pause := fun _ => return ()
    print := fun text => modify fun r => { r with output := r.output ++ text }
    printError := fun text => modify fun r => { r with errors := r.errors ++ text }
    isTerminal := return false
    exit := fun n => modify fun r => { r with exitCode := some n } }

def world : World Run :=
  worldWith servers

end Rehearsal

end PgMetrics
