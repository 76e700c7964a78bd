import Mathlib
import PgMetrics.Decimal.Binary64

namespace PgMetrics

namespace Binary64

open Float.Model (Format)
open Float.Model.UnpackedFloat

/-- The number that a finite double stands for. -/
def toRat? : Binary64 → Option ℚ
  | nan => none
  | infinite _ => none
  | finite negative m e => some ((if negative then -1 else 1) * m * 2 ^ e)

/-- The bits of a positive normal double with 53 bits in its mantissa. -/
def normalBits (exponent mantissa : Nat) : Nat :=
  exponent * 2 ^ 52 + (mantissa - 2 ^ 52)

/-- The bits of a double with a sign. -/
def signedBits (negative : Bool) (bits : Nat) : Nat :=
  negative.toNat * 2 ^ 63 + bits

variable {negative : Bool}

theorem toNat_normalBits {k m : Nat} (small : k < 2047) (low : 2 ^ 52 ≤ m) (high : m < 2 ^ 53) :
    (UInt64.ofNat (signedBits negative (normalBits k m))).toNat = signedBits negative (normalBits k m) := by
  have sign := negative.toNat_le
  unfold signedBits normalBits
  rw [UInt64.toNat_ofNat', Nat.mod_eq_of_lt (by omega)]

theorem ofBits_normalBits {k m : Nat} (pos : 0 < k) (small : k < 2047) (low : 2 ^ 52 ≤ m) (high : m < 2 ^ 53) :
    ofBits (UInt64.ofNat (signedBits negative (normalBits k m))) = finite negative m ((k : Int) - 1075) := by
  have sign : signedBits negative (normalBits k m) / 2 ^ 63 = negative.toNat := by
    unfold signedBits normalBits
    omega
  have exponent : signedBits negative (normalBits k m) / 2 ^ 52 % 2 ^ 11 = k := by
    unfold signedBits normalBits
    omega
  have fraction : signedBits negative (normalBits k m) % 2 ^ 52 = m - 2 ^ 52 := by
    unfold signedBits normalBits
    omega
  have whole : 2 ^ 52 + (m - 2 ^ 52) = m := by omega
  unfold ofBits
  simp only [toNat_normalBits small low high, Nat.pow_eq, sign, exponent, fraction, whole, if_neg small.ne,
    if_neg pos.ne']
  cases negative <;> rfl

/-- The bits are put together again from the fields that they are taken apart into. -/
theorem packComponents_unpack (b : BitVec Format.binary64.numBits) :
    packComponents .binary64 (Sign.ofBitVec (unpackSign b)) (unpackExponent b) (unpackMantissa b) = b := by
  have sign (s : BitVec 1) : (Sign.ofBitVec s).toBitVec = s := by
    revert s
    decide
  rw [packComponents, sign]
  ext i bound
  simp only [unpackSign, unpackExponent, unpackMantissa, BitVec.extractLsb]
  grind

theorem pack_unpack_of_normal {b : BitVec Format.binary64.numBits} (pos : 0 < (unpackExponent b).toNat)
    (small : (unpackExponent b).toNat < 2047) : pack .binary64 (unpack .binary64 b) = b := by
  have notSpecial : unpackExponent b ≠ -1#11 := by
    intro same
    rw [same] at small
    exact absurd small (by decide)
  have notLeast : unpackExponent b ≠ 0#11 := by
    intro same
    rw [same] at pos
    exact absurd pos (by decide)
  have fraction : (unpackMantissa b).toNat < 2 ^ 52 := (unpackMantissa b).isLt
  have mantissa : (1#1 ++ unpackMantissa b).toNat = 2 ^ 52 + (unpackMantissa b).toNat := by
    rw [BitVec.toNat_append, BitVec.toNat_ofNat, Nat.shiftLeft_eq, Nat.one_mod, Nat.one_mul]
    exact (Nat.two_pow_add_eq_or_of_lt fraction 1).symm
  have size : (2 ^ 52 + (unpackMantissa b).toNat).log2 = 52 := (Nat.log2_eq_iff (by omega)).2 (by omega)
  have exponent : (((unpackExponent b).toNat : Int) - (1023 + 52) + 1023 + 52).toNat = (unpackExponent b).toNat := by
    omega
  rw [unpack]
  simp only [if_neg notSpecial, if_neg notLeast]
  simp only [pack, mantissa, size]
  have bias : Format.binary64.exponentBias = 1023 := rfl
  have width : 52 + 1 = Format.binary64.mantissaBits := rfl
  simp only [bias, Nat.cast_ofNat, exponent, if_pos width, BitVec.ofNat_toNat, BitVec.setWidth_eq]
  rw [if_neg (by omega)]
  have whole : BitVec.ofNat 52 (2 ^ 52 + (unpackMantissa b).toNat) = unpackMantissa b := by
    rw [← BitVec.toNat_inj, BitVec.toNat_ofNat]
    omega
  rw [whole, packComponents_unpack]

theorem toBits_ofBits {bits : UInt64} (pos : 0 < (@unpackExponent Format.binary64 bits.toBitVec).toNat)
    (small : (@unpackExponent Format.binary64 bits.toBitVec).toNat < 2047) :
    (Float.ofBits bits).toBits = bits :=
  congrArg UInt64.ofBitVec (pack_unpack_of_normal pos small)

theorem toNat_unpackExponent (bits : UInt64) :
    (@unpackExponent Format.binary64 bits.toBitVec).toNat = bits.toNat / 2 ^ 52 % 2 ^ 11 := by
  simp [unpackExponent, Nat.shiftRight_eq_div_pow]

theorem ofFloat_normalBits {k m : Nat} (pos : 0 < k) (small : k < 2047) (low : 2 ^ 52 ≤ m) (high : m < 2 ^ 53) :
    ofFloat (Float.ofBits (UInt64.ofNat (signedBits negative (normalBits k m)))) =
      finite negative m ((k : Int) - 1075) := by
  have exponent : (@unpackExponent Format.binary64
      (UInt64.ofNat (signedBits negative (normalBits k m))).toBitVec).toNat = k := by
    rw [toNat_unpackExponent, toNat_normalBits small low high]
    unfold signedBits normalBits
    omega
  rw [ofFloat, toBits_ofBits (exponent.symm ▸ pos) (exponent.symm ▸ small), ofBits_normalBits pos small low high]

/-- The first bit of a number moves to the first of 53 bits. -/
theorem scaled_bounds {n : Nat} (pos : 0 < n) (small : n < 2 ^ 53) :
    n.log2 ≤ 52 ∧ 2 ^ 52 ≤ n * 2 ^ (52 - n.log2) ∧ n * 2 ^ (52 - n.log2) < 2 ^ 53 := by
  have size : n.log2 < 53 := (Nat.log2_lt pos.ne').2 small
  have least := Nat.mul_le_mul_right (2 ^ (52 - n.log2)) (Nat.log2_self_le pos.ne')
  have most := Nat.mul_lt_mul_of_pos_right (Nat.lt_log2_self (n := n)) (Nat.two_pow_pos (52 - n.log2))
  rw [← Nat.pow_add] at least most
  rw [show n.log2 + (52 - n.log2) = 52 by omega] at least
  rw [show n.log2 + 1 + (52 - n.log2) = 53 by omega] at most
  exact ⟨by omega, least, most⟩

theorem round_natural {n : Nat} (pos : 0 < n) (small : n < 2 ^ 53) :
    round n 1 = normalBits (n.log2 + 1023) (n * 2 ^ (52 - n.log2)) := by
  obtain ⟨size, low, high⟩ := scaled_bounds pos small
  have fits : ¬n * 2 ^ (53 - n.log2) < 2 ^ 53 := by
    have least := Nat.mul_le_mul_right (2 ^ (53 - n.log2)) (Nat.log2_self_le pos.ne')
    rw [← Nat.pow_add, show n.log2 + (53 - n.log2) = 53 by omega] at least
    omega
  have whole (m : Nat) : divideToEven m 1 = m := by
    simp [divideToEven, Nat.mod_one]
  have guess : max ((n.log2 : Int) - ((Nat.log2 1 : Nat) : Int) - 53) (-1074) = n.log2 - 53 := by
    rw [show Nat.log2 1 = 0 by decide]
    omega
  have wide : (-((n.log2 : Int) - 53)).toNat = 53 - n.log2 := by omega
  have narrow : (-((n.log2 : Int) - 53 + 1)).toNat = 52 - n.log2 := by omega
  have noScale : ((n.log2 : Int) - 53).toNat = 0 ∧ ((n.log2 : Int) - 53 + 1).toNat = 0 := by omega
  have exponent : ((n.log2 : Int) - 53 + 1 + 1075).toNat = n.log2 + 1023 := by omega
  unfold round
  simp only [Nat.pow_eq, guess, wide, noScale, Nat.pow_zero, Nat.mul_one, decide_eq_true_eq, if_neg fits, narrow, whole,
    if_neg high.ne, if_neg low.not_gt, exponent]
  have finite : ¬(n.log2 : Int) - 53 + 1 > 971 := by omega
  exact if_neg finite

theorem nearest_natural {n : Nat} (pos : 0 < n) (small : n < 2 ^ 53) : nearest negative n 1 =
    Float.ofBits (UInt64.ofNat (signedBits negative (normalBits (n.log2 + 1023) (n * 2 ^ (52 - n.log2))))) := by
  rw [nearest, if_neg pos.ne', round_natural pos small, signedBits]
  cases negative <;> simp

/-- Up to `2 ^ 53` the nearest double to an integer is the integer. -/
theorem toRat?_ofInt {n : Int} (small : n.natAbs < 2 ^ 53) : (ofFloat (ofInt n)).toRat? = some (n : ℚ) := by
  rcases Nat.eq_zero_or_pos n.natAbs with zero | pos
  · obtain rfl := Int.natAbs_eq_zero.1 zero
    have double : ofFloat (ofInt 0) = finite false 0 (-1074) := by decide +kernel
    rw [double, toRat?]
    norm_num
  · obtain ⟨size, low, high⟩ := scaled_bounds pos small
    have scale : ((n.natAbs.log2 + 1023 : Nat) : Int) - 1075 = -((52 - n.natAbs.log2 : Nat) : Int) := by omega
    have sign : (if decide (n < 0) = true then -1 else 1 : ℚ) * n.natAbs = n := by
      simp only [decide_eq_true_eq, Nat.cast_natAbs]
      split
      case isTrue below => rw [abs_of_neg below, Int.cast_neg, neg_one_mul, neg_neg]
      case isFalse above => rw [abs_of_nonneg (not_lt.1 above), one_mul]
    rw [ofInt, nearest_natural pos small, ofFloat_normalBits (by omega) (by omega) low high, toRat?, scale, zpow_neg,
      zpow_natCast, Nat.cast_mul, ← mul_assoc, sign]
    push_cast
    field_simp

theorem toRat?_ofNat {n : Nat} (small : n < 2 ^ 53) : (ofFloat (ofInt n)).toRat? = some (n : ℚ) :=
  toRat?_ofInt (n := n) small

end Binary64

end PgMetrics
