import PgMetrics.Decimal.Binary64

namespace PgMetrics.Decimal

/-- The digits that a text begins with, and the rest. -/
def takeDigits (cs : List Char) : List Char × List Char :=
  (cs.takeWhile Char.isDigit, cs.dropWhile Char.isDigit)

def digitsValue (cs : List Char) : Nat :=
  cs.foldl (fun n c => n * 10 + (c.toNat - 48)) 0

/-- The power of ten at the end of a number; nothing stands for none. -/
def readPower : List Char → Option Int
  | [] => some 0
  | e :: cs =>
    if e = 'e' ∨ e = 'E' then
      let (negative, ds) :=
        match cs with
        | '-' :: ds => (true, ds)
        | '+' :: ds => (false, ds)
        | ds => (false, ds)
      if ds.isEmpty || !ds.all Char.isDigit then none
      else some (if negative then -(digitsValue ds : Int) else digitsValue ds)
    else none

/-- The nearest double to `digits · 10 ^ power`. Numbers far outside the range of doubles are recognised
by the place of their first digit, so that no huge power is computed. -/
def nearestDecimal (negative : Bool) (digits : Nat) (power : Int) : Float :=
  let first := (Nat.toDigits 10 digits).length + power
  if digits = 0 ∨ first < -400 then Binary64.nearest negative 0 1
  else if first > 400 then Binary64.nearest negative (Nat.pow 10 400) 1
  else Binary64.nearest negative (digits * Nat.pow 10 power.toNat) (Nat.pow 10 (-power).toNat)

/-- A number without its sign: `inf`, `infinity` or `nan` in any case, or digits with an optional point among or
around them and an optional power of ten. -/
def readMagnitude (negative : Bool) (cs : List Char) : Option Float :=
  let lower := cs.map Char.toLower
  if lower = "inf".toList ∨ lower = "infinity".toList then
    some (Float.ofBits (UInt64.ofNat ((if negative then Nat.pow 2 63 else 0) + Binary64.infinityBits)))
  else if lower = "nan".toList then some (Float.ofBits 0x7FF8000000000000)
  else
    let (whole, rest) := takeDigits cs
    let (fraction, rest) :=
      match rest with
      | '.' :: ds => takeDigits ds
      | ds => ([], ds)
    if whole.isEmpty && fraction.isEmpty then none
    else
      (readPower rest).map fun power =>
        nearestDecimal negative (digitsValue (whole ++ fraction)) (power - fraction.length)

/-- The double that a text is the decimal form of, without blanks around it. -/
def read : List Char → Option Float
  | '-' :: cs => readMagnitude true cs
  | '+' :: cs => readMagnitude false cs
  | cs => readMagnitude false cs

end PgMetrics.Decimal
