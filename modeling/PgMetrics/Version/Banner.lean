import PgMetrics.Failure
import PgMetrics.Text.Blank
import PgMetrics.Text.DecimalDigit
import PgMetrics.Version.Basic

namespace PgMetrics.Version

def takeDigitRun (cs : List Char) : List Char × List Char :=
  (cs.takeWhile Text.isDecimalDigit, cs.dropWhile Text.isDecimalDigit)

/-- Further runs of digits, each behind a point. -/
def dottedRuns : Nat → List Char → List (List Char)
  | room + 1, '.' :: cs =>
    match takeDigitRun cs with
    | ([], _) => []
    | (digits, rest) => digits :: dottedRuns room rest
  | _, _ => []

/-- The runs of digits that stand for the version; none if the text is no banner. -/
def bannerRuns (cs : List Char) : List (List Char) :=
  let product := cs.takeWhile (!Text.isBlank ·)
  let rest := cs.dropWhile (!Text.isBlank ·)
  if product.isEmpty || rest.isEmpty then []
  else
    match takeDigitRun (rest.dropWhile Text.isBlank) with
    | ([], _) => []
    | (digits, rest) => digits :: dottedRuns 2 rest

def readRun (banner : String) (digits : List Char) : Except Failure UInt64 :=
  match Text.readNatural Text.maxUInt64 digits with
  | .ok n => .ok (UInt64.ofNat n)
  | .error e =>
    .error ((Failure.of (.integer e)).during (.readingComponent (String.ofList digits) banner))

def readRuns (banner : String) : List (List Char) → Except Failure (List UInt64)
  | [] => .ok []
  | run :: runs =>
    match readRun banner run with
    | .ok n => (readRuns banner runs).map (n :: ·)
    | .error e => .error e

/-- The version that a banner names; missing numbers are zero. -/
def ofBanner (banner : String) : Except Failure Version :=
  match bannerRuns banner.toList with
  | [] => .error (.of (.noVersionNumber banner))
  | runs =>
    (readRuns banner runs).map fun ns => release (ns.getD 0 0) (ns.getD 1 0) (ns.getD 2 0)

example : ((ofBanner "EnterpriseDB 9.6.5.10 on x").map text).toOption = some "9.6.5" := by
  decide +kernel

end PgMetrics.Version
