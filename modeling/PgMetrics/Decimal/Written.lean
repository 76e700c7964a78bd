import PgMetrics.Decimal.Shortest

namespace PgMetrics.Decimal

/-- The choices of one written form. The digits are the shortest that read back, whatever the form. -/
structure NumberFormat where
  /-- Which of two equally near shortest decimals is taken. -/
  tie : Tie
  /-- Positional notation is used where the point stands after more than `low` and at most `high` digits;
  without bounds it is used everywhere. -/
  positional : Option (Int × Int)
  /-- Whether a whole number ends in `.0`. -/
  wholeHasPoint : Bool
  nan : String
  infinity : String
  negativeInfinity : String

def digitChars (n : Nat) : List Char :=
  Nat.toDigits 10 n

/-- Digits with the point after `point` of them, filled up with zeros. -/
def layOut (wholeHasPoint : Bool) (digits : List Char) (point : Int) : List Char :=
  if point ≤ 0 then '0' :: '.' :: List.replicate (-point).toNat '0' ++ digits
  else if digits.length ≤ point.toNat then
    digits ++ List.replicate (point.toNat - digits.length) '0' ++
      (if wholeHasPoint then ['.', '0'] else [])
  else digits.take point.toNat ++ '.' :: digits.drop point.toNat

/-- One digit, the others behind a point, and the power of ten with its sign. -/
def layOutPower (digits : List Char) (power : Int) : List Char :=
  digits.take 1 ++ (if digits.length ≤ 1 then [] else '.' :: digits.drop 1) ++
    ['e', if power < 0 then '-' else '+'] ++ digitChars power.natAbs

def writeMagnitude (f : NumberFormat) (m : Nat) (e : Int) : List Char :=
  if m = 0 then if f.wholeHasPoint then ['0', '.', '0'] else ['0']
  else
    let s := shortest f.tie m e
    let digits := digitChars s.digits
    let point := digits.length + s.exponent
    match f.positional with
    | none => layOut f.wholeHasPoint digits point
    | some (low, high) =>
      if low < point ∧ point ≤ high then layOut f.wholeHasPoint digits point
      else layOutPower digits (point - 1)

def write (f : NumberFormat) (x : Float) : String :=
  match Binary64.ofFloat x with
  | .nan => f.nan
  | .infinite false => f.infinity
  | .infinite true => f.negativeInfinity
  | .finite negative m e =>
    String.ofList ((if negative then ['-'] else []) ++ writeMagnitude f m e)

/-- Never a power of ten, and no point in a whole number. -/
def plain : NumberFormat where
  tie := .up
  positional := none
  wholeHasPoint := false
  nan := "NaN"
  infinity := "inf"
  negativeInfinity := "-inf"

example : writeMagnitude plain (5 * 2 ^ 50) (-52) = ['1', '.', '2', '5'] := by decide +kernel
example : writeMagnitude plain (2 ^ 52) 14 = "73786976294838210000".toList := by decide +kernel
example : layOutPower ['1', '5'] 300 = "1.5e+300".toList := by decide

end PgMetrics.Decimal
