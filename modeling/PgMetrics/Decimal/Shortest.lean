import PgMetrics.Decimal.Binary64

namespace PgMetrics.Decimal

/-- Which of two equally near decimals is taken. -/
inductive Tie where
  | up
  | even
  deriving DecidableEq, Repr

/-- The number `digits · 10 ^ exponent`, with no zero at the end of its digits. -/
structure Scientific where
  digits : Nat
  exponent : Int
  deriving DecidableEq, Repr

/-- What reads back as one double: numbers from `low / unit` to `high / unit` around `mid / unit`. -/
structure Interval where
  low : Nat
  mid : Nat
  high : Nat
  unit : Nat
  closed : Bool

/-- The neighbours of `m · 2 ^ e` are half a step away, below a power of two only a quarter. -/
def Interval.around (m : Nat) (e : Int) : Interval :=
  let below := if m = Nat.pow 2 52 ∧ e > -1074 then 1 else 2
  let scale := Nat.pow 2 (e - 2).toNat
  { low := (4 * m - below) * scale, mid := 4 * m * scale, high := (4 * m + 2) * scale
    unit := Nat.pow 2 (2 - e).toNat, closed := m % 2 = 0 }

/-- Whether `c · 10 ^ k` lies in the interval. -/
def Interval.contains (i : Interval) (c : Nat) (k : Int) : Bool :=
  let point := c * Nat.pow 10 k.toNat * i.unit
  let scale := Nat.pow 10 (-k).toNat
  if i.closed then i.low * scale ≤ point && point ≤ i.high * scale
  else i.low * scale < point && point < i.high * scale

/-- The least `p` in `p, p + 1, …` with the middle below `10 ^ p`. -/
def Interval.magnitude (i : Interval) (p : Int) : Nat → Int
  | 0 => p
  | fuel + 1 =>
    if i.mid * Nat.pow 10 (-p).toNat < Nat.pow 10 p.toNat * i.unit then p else i.magnitude (p + 1) fuel

/-- The nearer of the middle's two neighbours on the multiples of `10 ^ k`, if the interval has one. It has a point of
that grid only if one of these two is in it. -/
def Interval.pick (i : Interval) (tie : Tie) (k : Int) : Option Nat :=
  let num := i.mid * Nat.pow 10 (-k).toNat
  let den := i.unit * Nat.pow 10 k.toNat
  let c := num / den
  let r := num % den
  match i.contains c k, i.contains (c + 1) k with
  | false, false => none
  | true, false => some c
  | false, true => some (c + 1)
  | true, true =>
    if 2 * r < den then some c
    else if 2 * r > den then some (c + 1)
    else
      match tie with
      | .up => some (c + 1)
      | .even => some (c + c % 2)

/-- Zeros at the end move into the exponent. -/
def Scientific.strip (digits : Nat) (exponent : Int) : Nat → Scientific
  | 0 => ⟨digits, exponent⟩
  | fuel + 1 =>
    if digits ≠ 0 ∧ digits % 10 = 0 then strip (digits / 10) (exponent + 1) fuel
    else ⟨digits, exponent⟩

/-- The coarsest grid with a point of the interval, from `p - n` down. -/
def Interval.search (i : Interval) (tie : Tie) (k : Int) : Nat → Scientific
  | 0 => Scientific.strip (i.mid / i.unit) 0 400
  | fuel + 1 =>
    match i.pick tie k with
    | some c => Scientific.strip c k 20
    | none => i.search tie (k - 1) fuel

/-- The shortest decimal that reads back as the positive double `m · 2 ^ e`: the fewest digits, and of those the
nearest. -/
def shortest (tie : Tie) (m : Nat) (e : Int) : Scientific :=
  let i := Interval.around m e
  let estimate := ((m.log2 : Int) + e) * 30102 / 100000 - 1
  i.search tie (i.magnitude estimate 4 - 1) 18

example : shortest .even (2 ^ 52) (-52) = ⟨1, 0⟩ := by decide +kernel
example : shortest .even 1 (-1074) = ⟨5, -324⟩ := by decide +kernel
example : shortest .even (2 ^ 53 - 1) 971 = ⟨17976931348623157, 292⟩ := by decide +kernel
example : shortest .even 0x1999999999999A (-56) = ⟨1, -1⟩ := by decide +kernel

end PgMetrics.Decimal
