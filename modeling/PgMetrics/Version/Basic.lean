import PgMetrics.Text.Pieces

namespace PgMetrics

/-- A version `major.minor.patch`; an absent pre-release or build part is the empty text. -/
structure Version where
  major : UInt64
  minor : UInt64
  patch : UInt64
  pre : String := ""
  build : String := ""
  deriving DecidableEq, Repr

namespace Version

/-- A version without pre-release and build part. -/
def release (major minor patch : UInt64) : Version :=
  { major, minor, patch }

def number (n : UInt64) : String :=
  n.toNat.repr

def text (v : Version) : String :=
  number v.major ++ "." ++ number v.minor ++ "." ++ number v.patch ++
    (if v.pre.isEmpty then "" else "-" ++ v.pre) ++ (if v.build.isEmpty then "" else "+" ++ v.build)

/-- The order of the three numbers. -/
def compareRelease (a b : Version) : Ordering :=
  (compare a.major b.major).then ((compare a.minor b.minor).then (compare a.patch b.patch))

/-- Compares numbers written without a sign: the longer is the larger, then the digits decide. -/
def compareDigits (a b : List Char) : Ordering :=
  (compare a.length b.length).then (compareOfLessAndEq (String.ofList a) (String.ofList b))

def isNumeric (part : List Char) : Bool :=
  part.all Char.isDigit

/-- Numeric parts come before others; others are compared as texts. -/
def compareParts (numbers : List Char → List Char → Ordering) (a b : List Char) : Ordering :=
  match isNumeric a, isNumeric b with
  | true, true => numbers a b
  | true, false => .lt
  | false, true => .gt
  | false, false => compareOfLessAndEq (String.ofList a) (String.ofList b)

/-- Part by part; of two lists that agree as far as both go, the longer is the larger. -/
def compareDotted (numbers : List Char → List Char → Ordering) :
    List (List Char) → List (List Char) → Ordering
  | [], [] => .eq
  | [], _ :: _ => .lt
  | _ :: _, [] => .gt
  | a :: as, b :: bs => (compareParts numbers a b).then (compareDotted numbers as bs)

/-- A version with a pre-release part precedes the release itself. -/
def comparePre (a b : String) : Ordering :=
  if a = b then .eq
  else if a.isEmpty then .gt
  else if b.isEmpty then .lt
  else compareDotted compareDigits (pieces a) (pieces b)
where
  pieces (s : String) := Text.pieces '.' s.toList

/-- Numbers in a build part may start with zeros; of two equal ones the one with more zeros is larger. -/
def compareBuildNumbers (a b : List Char) : Ordering :=
  let strip := List.dropWhile (· == '0')
  (compareDigits (strip a) (strip b)).then (compare a.length b.length)

def compareBuild (a b : String) : Ordering :=
  if a = b then .eq
  else if a.isEmpty then .lt
  else if b.isEmpty then .gt
  else compareDotted compareBuildNumbers (Text.pieces '.' a.toList) (Text.pieces '.' b.toList)

/-- Whether a version comes strictly before another, by the three numbers, then the pre-release part,
then the build part. -/
def before (a b : Version) : Bool :=
  ((compareRelease a b).then ((comparePre a.pre b.pre).then (compareBuild a.build b.build))) == .lt

end Version

end PgMetrics
