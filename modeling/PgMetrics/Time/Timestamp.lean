import PgMetrics.Text.Blank
import PgMetrics.Time.Calendar

namespace PgMetrics

/-- The whole seconds since the start of 1970 in UTC, rounded down, and the nanoseconds since then. In a leap
second there are more than a second of them. -/
structure Timestamp where
  seconds : Int
  nanos : Nat
  deriving DecidableEq, Repr

namespace Timestamp

def skipBlanks (cs : List Char) : List Char :=
  cs.dropWhile Text.isBlank

def digitsValue (ds : List Char) : Nat :=
  ds.foldl (fun n c => n * 10 + (c.toNat - 48)) 0

/-- A number of at most so many digits. -/
def number (most : Nat) (cs : List Char) : Option (Nat × List Char) :=
  let ds := (cs.takeWhile Char.isDigit).take most
  if ds.isEmpty then none else some (digitsValue ds, cs.drop ds.length)

/-- A year has at most four digits, or a sign and any number of them. -/
def year (cs : List Char) : Option (Int × List Char) :=
  match cs with
  | '-' :: cs => (number cs.length cs).map fun (n, rest) => (-(n : Int), rest)
  | '+' :: cs => (number cs.length cs).map fun (n, rest) => ((n : Int), rest)
  | cs => (number 4 cs).map fun (n, rest) => ((n : Int), rest)

/-- A number of at most two digits between the bounds, behind a mark and blanks. -/
def part (mark : Option Char) (low high : Nat) (cs : List Char) : Option (Nat × List Char) :=
  let behind? : Option (List Char) :=
    match mark, cs with
    | none, cs => some cs
    | some m, c :: cs => if c = m then some cs else none
    | some _, [] => none
  match behind? with
  | none => none
  | some cs =>
    match number 2 (skipBlanks cs) with
    | some (n, rest) => if low ≤ n ∧ n ≤ high then some (n, rest) else none
    | none => none

/-- A fraction of a second in nanoseconds; digits behind the ninth are passed over. -/
def fraction (cs : List Char) : Option (Nat × List Char) :=
  match cs with
  | '.' :: cs =>
    let ds := cs.takeWhile Char.isDigit
    let used := ds.take 9
    if used.isEmpty then none
    else some (digitsValue used * Nat.pow 10 (9 - used.length), cs.drop ds.length)
  | cs => some (0, cs)

/-- The years that dates may have. -/
def firstYear : Int := -262143

def lastYear : Int := 262142

def secondsOfDay (hour minute second : Nat) : Nat :=
  (hour * 60 + minute) * 60 + second

/-- The instant at a time of day in UTC. The sixtieth second is the one before it, gone on for longer. -/
def ofParts (date : Calendar.Date) (hour minute second nanos : Nat) : Timestamp :=
  let midnight := date.dayNumber * 86400
  if second = 60 then ⟨midnight + secondsOfDay hour minute 59, 1000000000 + nanos⟩
  else ⟨midnight + secondsOfDay hour minute second, nanos⟩

/-- Date and time of day as in UTC, and the rest. -/
def readLocal (cs : List Char) : Option (Timestamp × List Char) := do
  let (year, cs) ← year (skipBlanks cs)
  let (month, cs) ← part (some '-') 1 12 cs
  let (day, cs) ← part (some '-') 1 31 cs
  let (hour, cs) ← part none 0 23 cs
  let (minute, cs) ← part (some ':') 0 59 cs
  let (second, cs) ← part (some ':') 0 60 cs
  let (nanos, cs) ← fraction cs
  let date : Calendar.Date := ⟨year, month, day⟩
  if firstYear ≤ year ∧ year ≤ lastYear ∧ date.isValid then
    some (ofParts date hour minute second nanos, cs)
  else none

/-- Digits for minutes behind the hours of an offset, which may be left out. -/
def offsetMinutes (cs : List Char) : Option (Nat × List Char) :=
  match cs with
  | [] => some (0, [])
  | [_] => none
  | a :: b :: rest =>
    if a.isDigit ∧ b.isDigit ∧ a.toNat < 54 then some (digitsValue [a, b], rest) else none

/-- Hours and minutes, with colons and blanks between them, in seconds. -/
def offsetSize (cs : List Char) : Option (Nat × List Char) :=
  match cs with
  | a :: b :: rest =>
    if a.isDigit ∧ b.isDigit then
      (offsetMinutes (rest.dropWhile fun c => c == ':' || Text.isBlank c)).map fun (minutes, rest) =>
        ((digitsValue [a, b] * 60 + minutes) * 60, rest)
    else none
  | _ => none

/-- An offset from UTC in seconds. -/
def offset (cs : List Char) : Option (Int × List Char) :=
  match skipBlanks cs with
  | 'Z' :: rest => some (0, rest)
  | 'z' :: rest => some (0, rest)
  | '+' :: cs => (offsetSize cs).map fun (n, rest) => ((n : Int), rest)
  | '-' :: cs => (offsetSize cs).map fun (n, rest) => (-(n : Int), rest)
  | '−' :: cs => (offsetSize cs).map fun (n, rest) => (-(n : Int), rest)
  | _ => none

/-- Whether an instant falls into the years that dates may have. -/
def isInRange (t : Timestamp) : Bool :=
  (Calendar.Date.mk firstYear 1 1).dayNumber * 86400 ≤ t.seconds &&
    t.seconds < ((Calendar.Date.mk lastYear 12 31).dayNumber + 1) * 86400

/-- A point in time written without an offset, as in UTC. -/
def read (s : String) : Option Timestamp :=
  match readLocal s.toList with
  | some (t, []) => some t
  | _ => none

/-- A point in time written with its offset from UTC, which is less than a day. -/
def readWithOffset (s : String) : Option Timestamp :=
  match readLocal s.toList with
  | none => none
  | some (t, rest) =>
    match offset rest with
    | some (seconds, []) =>
      let instant : Timestamp := ⟨t.seconds - seconds, t.nanos⟩
      if seconds.natAbs < 86400 ∧ instant.isInRange then some instant else none
    | _ => none

example : read "2024-03-01 12:00:00.5" = some ⟨1709294400, 500000000⟩ := by decide +kernel
example : readWithOffset "2024-03-01 12:00:00-03:30" = some ⟨1709307000, 0⟩ := by decide +kernel
example : read "2024-02-30 00:00:00" = none := by decide +kernel

end Timestamp

end PgMetrics
