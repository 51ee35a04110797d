import Mathlib.Data.Int.Basic

/-!
# Clocks that count in signed words

Time points and durations of a clock whose ticks are counted in a signed word of
64 bits.  A duration is made from an unsigned count in a coarse unit, converted to
ticks and added to a reading.

All three operations keep their value modulo the size of the word, so that the
result is the balanced residue of the exact sum, whatever happens on the way.  This
is what two's complement hardware computes; the language promises it for the first
operation, and for the others only while they do not overflow.
-/

namespace PkgexecLinux.Foundation

/-- The duration made from an unsigned count. -/
def durationOf (count : UInt64) : Int64 := count.toInt64

/-- A duration in a coarse unit, of which each is `ratio` ticks. -/
def inTicks (ratio duration : Int64) : Int64 := duration * ratio

/-- The first time point of the clock. -/
def firstTimePoint : Int64 := Int64.minValue

/-- The last time point of the clock. -/
def lastTimePoint : Int64 := Int64.maxValue

theorem toInt_lastTimePoint : lastTimePoint.toInt = 9223372036854775807 := rfl

/-- A clock reading that is given as a number. -/
theorem toInt_ofNat_of_le_last {reading : Nat} (shown : reading ≤ lastTimePoint.toInt) :
    (Int64.ofNat reading).toInt = reading := by
  rw [toInt_lastTimePoint] at shown
  exact Int64.toInt_ofNat_of_lt (show reading < 9223372036854775808 by omega)

theorem toInt_durationOf (count : UInt64) :
    (durationOf count).toInt = (count.toNat : Int).bmod Int64.size := by
  rw [durationOf, Int64.toInt, UInt64.toBitVec_toInt64, BitVec.toInt_eq_toNat_bmod,
    UInt64.toNat_toBitVec]

/-- A reading advanced by a converted duration is the balanced residue of the
exact sum. -/
theorem toInt_add_inTicks (reading ratio : Int64) (count : UInt64) :
    (reading + inTicks ratio (durationOf count)).toInt =
      (reading.toInt + count.toNat * ratio.toInt).bmod Int64.size := by
  rw [inTicks, Int64.toInt_add, Int64.toInt_mul, toInt_durationOf]
  change (reading.toInt + ((count.toNat : Int).bmod Int64.size * ratio.toInt).bmod
    Int64.size).bmod Int64.size = _
  rw [Int.bmod_mul_bmod, Int.add_bmod_bmod]

/-! ## Balanced residues -/

theorem bmod_eq_self {value : Int} (low : firstTimePoint.toInt ≤ value)
    (high : value ≤ lastTimePoint.toInt) : value.bmod Int64.size = value :=
  Int.bmod_eq_of_le low (Int.lt_add_one_of_le high)

theorem bmod_le_last (value : Int) : value.bmod Int64.size ≤ lastTimePoint.toInt :=
  Int.bmod_le (by decide)

/-- A residue is not below its value exactly when it is its value. -/
theorem le_bmod_iff {value : Int} (low : firstTimePoint.toInt ≤ value) :
    value ≤ value.bmod Int64.size ↔ value ≤ lastTimePoint.toInt := by
  constructor
  · intro above
    exact Int.le_trans above (bmod_le_last value)
  · intro high
    exact Int.le_of_eq (bmod_eq_self low high).symm

theorem bmod_eq_last_iff (value : Int) :
    value.bmod Int64.size = lastTimePoint.toInt ↔
      value % Int64.size = lastTimePoint.toInt := by
  have size : (Int64.size : Int) = 18446744073709551616 := rfl
  rw [Int.bmod_eq_iff (by decide), toInt_lastTimePoint, size]
  omega

/-- While the exact sum fits, none of the three operations leaves its range. -/
theorem exact_of_fits {reading ratio : Int64} {count : UInt64}
    (running : 0 ≤ reading.toInt) (coarse : 1 ≤ ratio.toInt)
    (fits : reading.toInt + count.toNat * ratio.toInt ≤ lastTimePoint.toInt) :
    (durationOf count).toInt = count.toNat ∧
      (inTicks ratio (durationOf count)).toInt = count.toNat * ratio.toInt ∧
      (reading + inTicks ratio (durationOf count)).toInt =
        reading.toInt + count.toNat * ratio.toInt := by
  have scaled : (count.toNat : Int) ≤ count.toNat * ratio.toInt := by
    have grown := Int.mul_le_mul_of_nonneg_left coarse (Int.natCast_nonneg count.toNat)
    rwa [Int.mul_one] at grown
  generalize ticks : (count.toNat : Int) * ratio.toInt = product at fits scaled ⊢
  have inRange {value : Int} (low : 0 ≤ value) (high : value ≤ lastTimePoint.toInt) :
      value.bmod Int64.size = value :=
    bmod_eq_self (Int.le_trans (by decide) low) high
  have first : (durationOf count).toInt = count.toNat := by
    rw [toInt_durationOf]
    exact inRange (by omega) (by omega)
  have second : (inTicks ratio (durationOf count)).toInt = product := by
    rw [inTicks, Int64.toInt_mul, first, ticks]
    exact inRange (by omega) (by omega)
  have third : (reading + inTicks ratio (durationOf count)).toInt =
      reading.toInt + product := by
    rw [Int64.toInt_add, second]
    exact inRange (by omega) (by omega)
  exact ⟨first, second, third⟩

end PkgexecLinux.Foundation
