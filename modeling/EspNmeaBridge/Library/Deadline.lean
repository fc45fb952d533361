import Mathlib.Data.Int.ModEq

/-!
# Deadlines in wrapping time

A 32-bit millisecond clock compares the present with a deadline through the sign
of their wrapping difference.  The comparison is right while the two lie within
half the clock's range of each other, and wrong again and again afterwards
(`isBefore_truncated_iff`).
-/

namespace Library

/-- A true time as a 32-bit clock shows it. -/
def truncated (time : Nat) : UInt32 := UInt32.ofNat time

/-- The signed comparison of two clock readings. -/
def isBefore (now deadline : UInt32) : Bool := decide ((now - deadline).toInt32 < 0)

theorem isBefore_iff (now deadline : UInt32) :
    isBefore now deadline = true ↔ 2 ^ 31 ≤ (now - deadline).toNat := by
  have sign : (now - deadline).toInt32 < 0 ↔ (now - deadline).toInt32.toInt < 0 :=
    Int32.lt_iff_toInt_lt
  have value : (now - deadline).toInt32.toInt = (now - deadline).toBitVec.toInt := rfl
  rw [isBefore, decide_eq_true_eq, sign, value, BitVec.toInt_neg_iff]
  have same : (now - deadline).toBitVec.toNat = (now - deadline).toNat := rfl
  omega

/-- The comparison in terms of the true times: the deadline is taken to lie ahead
exactly when the wrapped time since it falls in the upper half of the range. -/
theorem isBefore_truncated_iff (now deadline : Nat) :
    isBefore (truncated now) (truncated deadline) = true ↔
      2 ^ 31 ≤ ((now : Int) - deadline) % 2 ^ 32 := by
  rw [isBefore_iff, UInt32.toNat_sub]
  simp only [truncated, UInt32.toNat_ofNat']
  omega

/-- A deadline ahead by at most half the range is recognized. -/
theorem isBefore_truncated_of_lt {now deadline : Nat} (ahead : now < deadline)
    (near : deadline ≤ now + 2 ^ 31) :
    isBefore (truncated now) (truncated deadline) = true := by
  rw [isBefore_truncated_iff]
  omega

/-- A deadline that has passed is taken to lie ahead during every second half of
the range. -/
theorem isBefore_truncated_of_le {now deadline : Nat} (passed : deadline ≤ now) :
    isBefore (truncated now) (truncated deadline) = true ↔
      2 ^ 31 ≤ (now - deadline) % 2 ^ 32 := by
  rw [isBefore_truncated_iff]
  omega

end Library
