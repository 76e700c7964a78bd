import PgMetrics.Text.Integer
import PgMetrics.Text.Pieces
import PgMetrics.Text.Utf8
import PgMetrics.Url.Address

namespace PgMetrics

/-- Where a server listens: at a name, or at a socket in a directory. -/
inductive Host where
  | name (text : String)
  | socket (directory : List UInt8)
  deriving DecidableEq, Repr

/-- How a host is shown. -/
def Host.text : Host → String
  | name text => text
  | socket directory => String.ofList (Text.decodeReplacing directory)

inductive SslMode where
  | disable
  | prefer
  | require
  deriving DecidableEq, Repr

inductive SslNegotiation where
  | postgres
  | direct
  deriving DecidableEq, Repr

inductive SessionKind where
  | any
  | readWrite
  | readOnly
  deriving DecidableEq, Repr

/-- What a connection string says. Hosts, addresses and ports add up over the string; of any other setting the last
value counts. -/
structure ConnectionSettings where
  user : Option String := none
  password : Option (List UInt8) := none
  dbname : Option String := none
  options : Option String := none
  applicationName : Option String := none
  sslMode : SslMode := .prefer
  sslNegotiation : SslNegotiation := .postgres
  hosts : List Host := []
  addresses : List Address := []
  ports : List Nat := []
  connectTimeout : Option Nat := none
  userTimeout : Option Nat := none
  keepalives : Bool := true
  keepalivesIdle : Nat := 7200
  keepalivesInterval : Option Nat := none
  keepalivesRetries : Option Nat := none
  session : SessionKind := .any
  channelBinding : SslMode := .prefer
  randomHost : Bool := false
  deriving DecidableEq, Repr

namespace ConnectionSettings

def bytesOf (s : String) : List UInt8 :=
  (Text.encode s).data.toList

/-- A host that begins with a slash is a directory. -/
def addHost (c : ConnectionSettings) (host : String) : ConnectionSettings :=
  { c with
    hosts := c.hosts ++
      [if host.toList.head? = some '/' then .socket (bytesOf host) else .name host] }

def sslModes : List (String × SslMode) :=
  [("disable", .disable), ("prefer", .prefer), ("require", .require)]

def sessionKinds : List (String × SessionKind) :=
  [("any", .any), ("read-write", .readWrite), ("read-only", .readOnly)]

/-- An empty port is the usual one. -/
def port? (s : String) : Option Nat :=
  if s.isEmpty then some 5432 else (Text.readNatural Text.maxUInt16 s.toList).toOption

def natural? (limit : Nat) (s : String) : Option Nat :=
  (Text.readNatural limit s.toList).toOption

/-- A number of seconds. Those that are not positive leave the setting as it was. -/
def seconds? (old : Option Nat) (s : String) : Option (Option Nat) :=
  (Text.readInteger Text.maxInt64 s.toList).toOption.map fun n =>
    if 0 < n then some n.toNat else old

/-- Makes one setting; nothing if there is none of that name or the value does not fit. -/
def set (c : ConnectionSettings) (key value : String) : Option ConnectionSettings :=
  match key with
  | "user" => some { c with user := some value }
  | "password" => some { c with password := some (bytesOf value) }
  | "dbname" => some { c with dbname := some value }
  | "options" => some { c with options := some value }
  | "application_name" => some { c with applicationName := some value }
  | "sslmode" => (sslModes.lookup value).map fun m => { c with sslMode := m }
  | "sslnegotiation" =>
    match value with
    | "postgres" => some { c with sslNegotiation := .postgres }
    | "direct" => some { c with sslNegotiation := .direct }
    | _ => none
  | "host" => some ((Text.split ',' value).foldl addHost c)
  | "hostaddr" =>
    ((Text.pieces ',' value.toList).mapM Address.read?).map fun as =>
      { c with addresses := c.addresses ++ as }
  | "port" => ((Text.split ',' value).mapM port?).map fun ps => { c with ports := c.ports ++ ps }
  | "connect_timeout" =>
    (seconds? c.connectTimeout value).map fun t => { c with connectTimeout := t }
  | "tcp_user_timeout" => (seconds? c.userTimeout value).map fun t => { c with userTimeout := t }
  | "keepalives" =>
    (natural? Text.maxUInt64 value).map fun n => { c with keepalives := n != 0 }
  | "keepalives_idle" =>
    (seconds? (some c.keepalivesIdle) value).map fun t =>
      { c with keepalivesIdle := t.getD c.keepalivesIdle }
  | "keepalives_interval" =>
    (seconds? c.keepalivesInterval value).map fun t => { c with keepalivesInterval := t }
  | "keepalives_retries" =>
    (natural? Text.maxUInt32 value).map fun n => { c with keepalivesRetries := some n }
  | "target_session_attrs" => (sessionKinds.lookup value).map fun k => { c with session := k }
  | "channel_binding" => (sslModes.lookup value).map fun m => { c with channelBinding := m }
  | "load_balance_hosts" =>
    match value with
    | "disable" => some { c with randomHost := false }
    | "random" => some { c with randomHost := true }
    | _ => none
  | _ => none

end ConnectionSettings

end PgMetrics
