import PgMetrics.Version.Basic
import PgMetrics.Text.Integer

namespace PgMetrics.Version

/-- A number without superfluous zeros, and the rest. -/
def takeNumber (cs : List Char) : Option (UInt64 × List Char) :=
  let digits := cs.takeWhile Char.isDigit
  let rest := cs.dropWhile Char.isDigit
  if digits.length > 1 ∧ digits.head? = some '0' then none
  else
    match Text.readDigits Text.maxUInt64 .tooLarge 0 digits with
    | .ok n => if digits.isEmpty then none else some (UInt64.ofNat n, rest)
    | .error _ => none

def isNameChar (c : Char) : Bool :=
  c.isAlphanum || c == '-'

/-- Dotted names, all non-empty; a number among them may be forbidden to start with a zero. -/
def validNames (zeros : Bool) (cs : List Char) : Bool :=
  (Text.pieces '.' cs).all fun part =>
    !part.isEmpty && part.all isNameChar &&
      (zeros || !(isNumeric part && part.length > 1 && part.head? == some '0'))

/-- The pre-release part up to a `+`, and what is behind it. -/
def splitBuild (cs : List Char) : List Char × Option (List Char) :=
  match cs.dropWhile (· != '+') with
  | [] => (cs, none)
  | _ :: build => (cs.takeWhile (· != '+'), some build)

def readSuffix (v : Version) (cs : List Char) : Option Version :=
  let (pre, build) := splitBuild cs
  let validPre :=
    match pre with
    | [] => true
    | '-' :: names => validNames false names
    | _ => false
  let validBuild :=
    match build with
    | none => true
    | some names => validNames true names
  if validPre && validBuild then
    some { v with pre := String.ofList (pre.drop 1), build := String.ofList (build.getD []) }
  else none

/-- The version that a text such as `9.1.0-rc.1` spells out in full, with all three numbers. -/
def read? (s : String) : Option Version :=
  match takeNumber s.toList with
  | some (major, '.' :: cs) =>
    match takeNumber cs with
    | some (minor, '.' :: cs) =>
      match takeNumber cs with
      | some (patch, cs) => readSuffix (release major minor patch) cs
      | none => none
    | _ => none
  | _ => none

example : (read? "9.1.0").isSome = true := by decide +kernel
example : (read? "9.1.0-rc.1+b").isSome = true := by decide +kernel
example : read? "09.1.0" = none := by decide +kernel
example : read? "1.2.3-01" = none := by decide +kernel
example : read? "9.1" = none := by decide +kernel

end PgMetrics.Version
