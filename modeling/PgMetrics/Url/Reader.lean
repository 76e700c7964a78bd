import PgMetrics.Url.Basic

namespace PgMetrics.Url

def isPadding (c : Char) : Bool :=
  c.toNat ≤ 0x20

/-- The characters of a text that count: no tabs and line ends, nor control characters and spaces at the end. -/
def significant (cs : List Char) : List Char :=
  ((cs.reverse.dropWhile isPadding).reverse).filter (!isDropped ·)

def endsAuthority (c : Char) : Bool :=
  c == '/' || c == '?' || c == '#'

/-- The text before the last `@` and the text behind it. -/
def splitCredentials (authority : List Char) : Option (List Char) × List Char :=
  let back := authority.reverse
  match back.dropWhile (· != '@') with
  | [] => (none, authority)
  | _ :: before => (some before.reverse, (back.takeWhile (· != '@')).reverse)

/-- User and password; an empty password is none. -/
def readCredentials (cs : List Char) : List Char × Option (List Char) :=
  let encode := Percent.encode Percent.userSet
  match cs.dropWhile (· != ':') with
  | [] => (encode cs, none)
  | [_] => (encode (cs.takeWhile (· != ':')), none)
  | _ :: password => (encode (cs.takeWhile (· != ':')), some (encode password))

/-- The host up to the colon before a port, and the rest. Colons between brackets belong to the host. -/
def splitHost (bracketed : Bool) : List Char → List Char × List Char
  | [] => ([], [])
  | c :: cs =>
    if c = ':' ∧ !bracketed then ([], c :: cs)
    else
      let (host, rest) := splitHost (if c = '[' then true else if c = ']' then false else bracketed) cs
      (c :: host, rest)

def isForbidden (c : Char) : Bool :=
  c ∈ ['\x00', '\t', '\n', '\r', ' ', '#', '/', ':', '<', '>', '?', '@', '[', '\\', ']', '^', '|']

/-- A host: an address in brackets, or any text without certain marks. -/
def readHost : List Char → Except UrlError (List Char)
  | '[' :: cs =>
    if cs.getLast? = some ']' then
      match Address.readV6 cs.dropLast with
      | some gs => .ok ('[' :: Address.writeV6 gs ++ [']'])
      | none => .error .invalidIpv6
    else .error .invalidIpv6
  | cs => if cs.any isForbidden then .error .invalidHost else .ok (Percent.encode Percent.hostSet cs)

/-- The digits of a port, and the rest, which must begin a path, query or fragment. -/
def readPort (n : Nat) (some? : Bool) : List Char → Except UrlError (Option Nat × List Char)
  | [] => .ok (if some? then some n else none, [])
  | c :: cs =>
    if c.isDigit then
      let n := n * 10 + (c.toNat - 48)
      if n ≤ 65535 then readPort n true cs else .error .invalidPort
    else if endsAuthority c || c == '\\' then .ok (if some? then some n else none, c :: cs)
    else .error .invalidPort

/-- Path, query and fragment. A path that does not begin with a slash gets one. -/
def readTail (cs : List Char) : List Char × Option (List Char) × Option (List Char) :=
  let beforeFragment := cs.takeWhile (· != '#')
  let fragment :=
    match cs.dropWhile (· != '#') with
    | [] => none
    | _ :: f => some (Percent.encode Percent.fragmentSet f)
  let path := beforeFragment.takeWhile (· != '?')
  let query :=
    match beforeFragment.dropWhile (· != '?') with
    | [] => none
    | _ :: q => some (Percent.encode Percent.querySet q)
  let path :=
    match path with
    | [] => []
    | '/' :: p => pathOf p
    | p => pathOf p
  (path, query, fragment)

/-- The host, and the port behind a colon. The host may be empty only if nothing else names a place. -/
def readHostAndPort (credentials : Bool) (cs : List Char) :
    Except UrlError (List Char × Option Nat × List Char) := do
  let (host, rest) := splitHost false (cs.takeWhile (!endsAuthority ·))
  let rest := rest ++ cs.dropWhile (!endsAuthority ·)
  let host ← readHost host
  match rest with
  | ':' :: rest =>
    if host.isEmpty then .error .emptyHost
    else
      let (port, rest) ← readPort 0 false rest
      .ok (host, port, rest)
  | rest => if host.isEmpty && credentials then .error .emptyHost else .ok (host, none, rest)

/-- The URL of a scheme and the text behind its two slashes. -/
def read (scheme : List Char) (cs : List Char) : Except UrlError Url := do
  let cs := significant cs
  let authority := cs.takeWhile (!endsAuthority ·)
  let (before, behind) := splitCredentials authority
  let rest := behind ++ cs.dropWhile (!endsAuthority ·)
  let (user, password) := readCredentials (before.getD [])
  let credentials := !user.isEmpty || password.isSome
  let (host, port, rest) ←
    if before = some [] ∧ rest.head?.any endsAuthority then .error .emptyHost
    else readHostAndPort credentials rest
  let (path, query, fragment) := readTail rest
  .ok { scheme, user, password, host, port, path, query, fragment }

end PgMetrics.Url
