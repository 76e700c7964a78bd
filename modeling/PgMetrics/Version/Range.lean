import PgMetrics.Failure
import PgMetrics.Text.Blank
import PgMetrics.Text.Pieces
import PgMetrics.Version.Basic

namespace PgMetrics

inductive Comparison where
  | lt
  | le
  | gt
  | ge
  | eq
  deriving DecidableEq, Repr

namespace Comparison

def symbol : Comparison → String
  | lt => "<"
  | le => "<="
  | gt => ">"
  | ge => ">="
  | eq => "="

def holds : Comparison → Ordering → Bool
  | lt, o => o.isLT
  | le, o => o.isLE
  | gt, o => o.isGT
  | ge, o => o.isGE
  | eq, o => o.isEq

/-- The comparison that a bound begins with, and the rest. A bare version asks for equality. -/
def take : List Char → Comparison × List Char
  | '>' :: '=' :: cs => (ge, cs)
  | '<' :: '=' :: cs => (le, cs)
  | '>' :: cs => (gt, cs)
  | '<' :: cs => (lt, cs)
  | '=' :: cs => (eq, cs)
  | cs => (eq, cs)

end Comparison

/-- A version that others are compared with. -/
structure Bound where
  comparison : Comparison
  version : Version
  deriving DecidableEq, Repr

namespace Bound

/-- Only the three numbers count: servers have no other parts. -/
def accepts (b : Bound) (v : Version) : Bool :=
  b.comparison.holds (v.compareRelease b.version)

def text (b : Bound) : String :=
  b.comparison.symbol ++ b.version.text

/-- The numbers of a bound from the left; a fourth is refused before it is read. -/
def readComponents (bound : String) : Nat → List (List Char) → Except Failure (List UInt64)
  | _, [] => .ok []
  | 0, _ :: _ => .error (.of (.tooManyComponents bound))
  | room + 1, part :: parts =>
    match Text.readNatural Text.maxUInt64 part with
    | .error e => .error ((Failure.of (.integer e)).during (.readingBound bound))
    | .ok n => (readComponents bound room parts).map (UInt64.ofNat n :: ·)

/-- Missing numbers are zero. -/
def ofComponents (comparison : Comparison) : List UInt64 → Bound
  | [] => ⟨comparison, .release 0 0 0⟩
  | [major] => ⟨comparison, .release major 0 0⟩
  | [major, minor] => ⟨comparison, .release major minor 0⟩
  | major :: minor :: patch :: _ => ⟨comparison, .release major minor patch⟩

def read (cs : List Char) : Except Failure Bound :=
  let (comparison, rest) := Comparison.take cs
  (readComponents (String.ofList cs) 3 (Text.pieces '.' rest)).map (ofComponents comparison)

end Bound

/-- Bounds that must all hold. -/
structure VersionRange where
  bounds : List Bound
  deriving DecidableEq, Repr

namespace VersionRange

/-- A range without bounds accepts every version. -/
def accepts (r : VersionRange) (v : Version) : Bool :=
  r.bounds.all (·.accepts v)

def text (r : VersionRange) : String :=
  " ".intercalate (r.bounds.map Bound.text)

/-- The bounds that a text lists, of which there must be one. -/
def read (s : String) : Except Failure VersionRange :=
  match (Text.words s.toList).mapM Bound.read with
  | .error e => .error e
  | .ok [] => .error (.of .emptyRange)
  | .ok bounds => .ok ⟨bounds⟩

theorem accepts_append (as bs : List Bound) (v : Version) :
    accepts ⟨as ++ bs⟩ v = (accepts ⟨as⟩ v && accepts ⟨bs⟩ v) := by
  simp [accepts]

example : ((read ">=9.2 <10").map text).toOption = some ">=9.2.0 <10.0.0" := by decide +kernel

end VersionRange

end PgMetrics
