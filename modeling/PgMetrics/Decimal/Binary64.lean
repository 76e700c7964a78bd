namespace PgMetrics

/-- A double, taken apart; the finite ones are `m · 2 ^ e`. -/
inductive Binary64 where
  | nan
  | infinite (negative : Bool)
  | finite (negative : Bool) (mantissa : Nat) (exponent : Int)
  deriving DecidableEq, Repr

namespace Binary64

/-- The value that the bits of a double stand for; the least exponent is shared by the subnormals. -/
def ofBits (bits : UInt64) : Binary64 :=
  let n := bits.toNat
  let negative := n / Nat.pow 2 63 == 1
  let biased : Nat := n / Nat.pow 2 52 % Nat.pow 2 11
  let fraction := n % Nat.pow 2 52
  if biased = 2047 then (if fraction = 0 then infinite negative else nan)
  else if biased = 0 then finite negative fraction (-1074)
  else finite negative (Nat.pow 2 52 + fraction) ((biased : Int) - 1075)

def ofFloat (x : Float) : Binary64 :=
  ofBits x.toBits

/-- The bits of positive infinity. -/
def infinityBits : Nat := 2047 * Nat.pow 2 52

/-- `num / den` to the nearest integer, a half to the even one. -/
def divideToEven (num den : Nat) : Nat :=
  let q := num / den
  let r := num % den
  if 2 * r < den then q
  else if 2 * r = den then q + q % 2
  else q + 1

/-- The bits of the positive double nearest to `num / den`, where `den` is not zero. The exponent is
chosen so that the quotient has 53 bits, or is the least one. -/
def round (num den : Nat) : Nat :=
  let size : Int := (num.log2 : Int) - den.log2
  let fits (e : Int) : Bool := num * Nat.pow 2 (-e).toNat < Nat.pow 2 53 * (den * Nat.pow 2 e.toNat)
  let guess := max (size - 53) (-1074)
  let e := if fits guess then guess else guess + 1
  let m := divideToEven (num * Nat.pow 2 (-e).toNat) (den * Nat.pow 2 e.toNat)
  let (m, e) := if m = Nat.pow 2 53 then (Nat.pow 2 52, e + 1) else (m, e)
  if m < Nat.pow 2 52 then m
  else if e > 971 then infinityBits
  else (e + 1075).toNat * Nat.pow 2 52 + (m - Nat.pow 2 52)

/-- The nearest double to a ratio with a sign. -/
def nearest (negative : Bool) (num den : Nat) : Float :=
  let bits := if num = 0 then 0 else round num den
  Float.ofBits (UInt64.ofNat (if negative then Nat.pow 2 63 + bits else bits))

/-- The nearest double to an integer. -/
def ofInt (n : Int) : Float :=
  nearest (n < 0) n.natAbs 1

example : round 1 1 = 0x3FF0000000000000 := by decide
example : round 1 10 = 0x3FB999999999999A := by decide
example : round (2 ^ 53 + 1) 1 = 0x4340000000000000 := by decide
example : round 5 (10 ^ 324) = 1 := by decide +kernel
example : round (10 ^ 309) 1 = infinityBits := by decide +kernel
example : ofBits 0x3FF8000000000000 = finite false (3 * 2 ^ 51) (-52) := rfl

end Binary64

end PgMetrics
