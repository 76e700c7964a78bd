import PgMetrics.Url.Address
import PgMetrics.Url.Error
import PgMetrics.Url.Percent

namespace PgMetrics

/-- The parts of a URL with an authority, as they are written, that is, percent-encoded. -/
structure Url where
  scheme : List Char
  user : List Char
  /-- Never empty if present. -/
  password : Option (List Char)
  host : List Char
  port : Option Nat
  path : List Char
  query : Option (List Char)
  fragment : Option (List Char)
  deriving DecidableEq, Repr

namespace Url

def credentials (user : List Char) : Option (List Char) → List Char
  | some password => user ++ ':' :: password ++ ['@']
  | none => if user.isEmpty then [] else user ++ ['@']

def optional (mark : Char) : Option (List Char) → List Char
  | some cs => mark :: cs
  | none => []

/-- The text of a URL. -/
def write (u : Url) : List Char :=
  u.scheme ++ "://".toList ++ credentials u.user u.password ++ u.host ++
    optional ':' (u.port.map (Nat.toDigits 10)) ++ u.path ++ optional '?' u.query ++
    optional '#' u.fragment

def isDropped (c : Char) : Bool :=
  c == '\t' || c == '\n' || c == '\r'

/-- A letter and a colon or bar, alone or before a backslash. -/
def isDrive : List Char → Bool
  | a :: b :: rest => a.isAlpha && (b == ':' || b == '|') && (rest.isEmpty || rest.head? == some '\\')
  | _ => false

/-- Percent-encoded full stops count as such. -/
def plainDots : List Char → List Char
  | [] => []
  | c :: cs =>
    match c, cs with
    | '%', '2' :: e :: rest =>
      if e = 'e' ∨ e = 'E' then '.' :: plainDots rest else '%' :: plainDots ('2' :: e :: rest)
    | c, cs => c :: plainDots cs

/-- Goes up one directory, though not out of a drive. -/
def parent : List (List Char) → List (List Char)
  | [] => []
  | s :: above => if isDrive s then s :: above else above

/-- The directories that a path leads through, the innermost first, and its last segment. Segments of one
dot stay where they are and segments of two go up. -/
def resolve (above : List (List Char)) : List (List Char) → List (List Char) × List Char
  | [] => (above, [])
  | [s] =>
    if plainDots s = ['.', '.'] then (parent above, [])
    else if plainDots s = ['.'] then (above, [])
    else (above, s)
  | s :: ss =>
    if plainDots s = ['.', '.'] then resolve (parent above) ss
    else if plainDots s = ['.'] then resolve above ss
    else resolve (s :: above) ss

def writePath (above : List (List Char)) (last : List Char) : List Char :=
  '/' :: above.reverse.flatMap (· ++ ['/']) ++ last

/-- The path of the text behind its first slash. -/
def pathOf (cs : List Char) : List Char :=
  let segments := (Text.pieces '/' (cs.filter (!isDropped ·))).map (Percent.encode Percent.pathSet)
  writePath (resolve [] segments).1 (resolve [] segments).2

def withPath (u : Url) (path : List Char) : Url :=
  { u with path }

/-- The URL with another text in place of the password it has. -/
def maskPassword (u : Url) (mask : List Char) : Url :=
  { u with password := u.password.map fun _ => mask }

example : pathOf "a/../b/%2E/c/..".toList = "/b/".toList := by decide +kernel
example : pathOf "x y/C:/../?".toList = "/x%20y/C:/%3F".toList := by decide +kernel

end Url

end PgMetrics
