import PgMetrics.Text.Blank
import PgMetrics.Text.Integer
import PgMetrics.Decimal.Binary64

namespace PgMetrics

/-- A length of time; fewer than 10 ^ 9 nanoseconds. -/
structure Duration where
  seconds : Nat
  nanos : Nat
  deriving DecidableEq, Repr

/-- Why a text is no length of time. -/
inductive DurationError where
  | empty
  | numberExpected (offset : Nat)
  | invalidCharacter (offset : Nat)
  | unitNeeded (value : Nat)
  | unknownUnit (unit : String)
  | overflow
  deriving DecidableEq, Repr

def DurationError.message : DurationError → String
  | empty => "value was empty"
  | numberExpected offset => "expected number at " ++ offset.repr
  | invalidCharacter offset => "invalid character at " ++ offset.repr
  | unitNeeded value =>
    "time unit needed, for example " ++ value.repr ++ "sec or " ++ value.repr ++ "ms"
  | unknownUnit unit =>
    "unknown time unit \"" ++ unit ++ "\", supported units: ns, us/µs, ms, sec, min, hours, days, " ++
      "weeks, months, years (and few variations)"
  | overflow =>
    "number is too large or cannot be represented without a lack of precision " ++
      "(values below 1ns are not supported)"

namespace Duration

/-- What one of a unit is worth: a count of nanoseconds or of seconds. The fraction of a minute is
counted in nanoseconds, that of every longer unit in seconds. -/
structure Worth where
  nanos : Nat
  seconds : Nat
  fractionNanos : Nat
  fractionSeconds : Nat

def Worth.ofNanos (n : Nat) : Worth := ⟨n, 0, n, 0⟩

def Worth.ofSeconds (n : Nat) : Worth := ⟨0, n, 0, n⟩

/-- The worth of a unit by its name. The average month has 30.44 days, the average year 365.25. -/
def worth? (unit : String) : Option Worth :=
  if unit ∈ ["nanos", "nsec", "ns"] then some ⟨1, 0, 0, 0⟩
  else if unit ∈ ["usec", "us", "µs"] then some (.ofNanos 1000)
  else if unit ∈ ["millis", "msec", "ms"] then some (.ofNanos 1000000)
  else if unit ∈ ["seconds", "second", "secs", "sec", "s"] then some ⟨0, 1, 1000000000, 0⟩
  else if unit ∈ ["minutes", "minute", "min", "mins", "m"] then some ⟨0, 60, 60000000000, 0⟩
  else if unit ∈ ["hours", "hour", "hrs", "hr", "h"] then some (.ofSeconds 3600)
  else if unit ∈ ["days", "day", "d"] then some (.ofSeconds 86400)
  else if unit ∈ ["weeks", "week", "wks", "wk", "w"] then some (.ofSeconds 604800)
  else if unit ∈ ["months", "month", "M"] then some (.ofSeconds 2630016)
  else if unit ∈ ["years", "year", "yrs", "yr", "y"] then some (.ofSeconds 31557600)
  else none

/-- A product that must stay a 64-bit number. -/
def product (a b : Nat) : Except DurationError Nat :=
  if a * b ≤ Text.maxUInt64 then .ok (a * b) else .error .overflow

/-- A sum of lengths; a full second among the nanoseconds is carried over. -/
def plus (d : Duration) (seconds nanos : Nat) : Except DurationError Duration :=
  let nanos := d.nanos + nanos
  let seconds := d.seconds + seconds + nanos / 1000000000
  if nanos ≤ Text.maxUInt64 ∧ seconds ≤ Text.maxUInt64 then .ok ⟨seconds, nanos % 1000000000⟩
  else .error .overflow

/-- A fraction `numerator / denominator` of a count, if it is whole. -/
def share (numerator denominator count : Nat) : Except DurationError Nat :=
  match product numerator count with
  | .ok n => if n % denominator = 0 then .ok (n / denominator) else .error .overflow
  | .error e => .error e

/-- Adds a number of a unit, the whole part first. Nanoseconds have no fraction. -/
def addTerm (d : Duration) (value : Nat) (fraction : Option (Nat × Nat)) (unit : List Char) :
    Except DurationError Duration := do
  match worth? (String.ofList unit) with
  | none =>
    if unit.isEmpty then .error (.unitNeeded value)
    else .error (.unknownUnit (String.ofList unit))
  | some w =>
    let d ← d.plus (← product value w.seconds) (← product value w.nanos)
    match fraction with
    | none => .ok d
    | some (numerator, denominator) =>
      if w.fractionNanos = 0 ∧ w.fractionSeconds = 0 then .error .overflow
      else
        d.plus (← share numerator denominator w.fractionSeconds)
          (← share numerator denominator w.fractionNanos)

def isUnitChar (c : Char) : Bool :=
  c.isAlpha || c == 'µ'

/-- A digit behind those of a number. -/
def extend (n : Nat) (c : Char) : Except DurationError Nat :=
  let m := n * 10 + (c.toNat - 48)
  if m ≤ Text.maxUInt64 then .ok m else .error .overflow

/-- Where a reader stands: the text left and the offset of its first character, in bytes. -/
structure Cursor where
  rest : List Char
  offset : Nat

/-- Passes blanks up to the first digit of a number; nothing at the end of the text. -/
def firstDigit : List Char → Nat → Except DurationError (Option (Nat × Cursor))
  | [], _ => .ok none
  | c :: cs, offset =>
    if c.isDigit then .ok (some (c.toNat - 48, ⟨cs, offset + 1⟩))
    else if Text.isBlank c then firstDigit cs (offset + c.utf8Size)
    else .error (.numberExpected offset)

/-- The digits behind a point as a ratio, with blanks among them passed over, up to a unit. -/
def fractionDigits (numerator denominator offset : Nat) :
    List Char → Nat → Except DurationError ((Nat × Nat) × Cursor)
  | [], here => close here []
  | c :: cs, here =>
    if c.isDigit then
      match product denominator 10, extend numerator c with
      | .ok d, .ok n => fractionDigits n d (here + 1) cs (here + 1)
      | _, _ => .error .overflow
    else if Text.isBlank c then
      fractionDigits numerator denominator (here + c.utf8Size) cs (here + c.utf8Size)
    else if isUnitChar c then close here (c :: cs)
    else .error (.invalidCharacter offset)
where
  close (here : Nat) (rest : List Char) : Except DurationError ((Nat × Nat) × Cursor) :=
    if denominator = 1 then .error (.invalidCharacter offset)
    else .ok ((numerator, denominator), ⟨rest, here⟩)

/-- The rest of a number whose first digits are given, up to its unit. -/
def number (n : Nat) : List Char → Nat → Except DurationError ((Nat × Option (Nat × Nat)) × Cursor)
  | [], here => .ok ((n, none), ⟨[], here⟩)
  | c :: cs, here =>
    if c.isDigit then
      match extend n c with
      | .ok n => number n cs (here + 1)
      | .error e => .error e
    else if Text.isBlank c then number n cs (here + c.utf8Size)
    else if isUnitChar c then .ok ((n, none), ⟨c :: cs, here⟩)
    else if c = '.' then
      (fractionDigits 0 1 here cs (here + 1)).map fun (f, cursor) => ((n, some f), cursor)
    else .error (.invalidCharacter here)

/-- The letters of a unit, which end at a blank, a digit or the end of the text. -/
def unitName (taken : List Char) : List Char → Nat → Except DurationError (List Char × Cursor)
  | [], here => .ok (taken.reverse, ⟨[], here⟩)
  | c :: cs, here =>
    if isUnitChar c then unitName (c :: taken) cs (here + c.utf8Size)
    else if c.isDigit then .ok (taken.reverse, ⟨c :: cs, here⟩)
    else if Text.isBlank c then .ok (taken.reverse, ⟨cs, here + c.utf8Size⟩)
    else .error (.invalidCharacter here)

/-- Adds term after term. Each takes at least its first digit, so `count` terms are enough where
`count` is the length of the text. -/
def terms (count : Nat) (sum : Duration) (cs : List Char) (here : Nat) (started : Bool) :
    Except DurationError Duration :=
  match count with
  | 0 => .ok sum
  | count + 1 => do
    match ← firstDigit cs here with
    | none => if started then .ok sum else .error .empty
    | some (n, cursor) =>
      let ((n, fraction), cursor) ← number n cursor.rest cursor.offset
      let (unit, cursor) ← unitName [] cursor.rest cursor.offset
      let sum ← sum.addTerm n fraction unit
      terms count sum cursor.rest cursor.offset true

/-- The length of time that a text writes. A lone zero needs no unit. -/
def read (s : String) : Except DurationError Duration :=
  if s = "0" then .ok ⟨0, 0⟩ else terms (s.length + 1) ⟨0, 0⟩ s.toList 0 false

/-- The length in milliseconds, computed in seconds as a double first. -/
def milliseconds (d : Duration) : Float :=
  (Binary64.ofInt d.seconds + Binary64.ofInt d.nanos / 1e9) * 1000.0

end Duration

end PgMetrics
