import Mathlib.Algebra.Order.Ring.Nat
import Mathlib.Data.UInt

/-!
# Exponential back-off

The delay after a failed attempt doubles from one attempt to the next, up to a limit.
A loop that stops doubling at the limit computes it, and a count of the attempts that
saturates is as good as the true one, if the limit is reached before the count saturates.
-/

namespace Library

/-- The delay after the last of a number of failed attempts. -/
def backoff (initial limit attempts : Nat) : Nat := min (initial * 2 ^ (attempts - 1)) limit

/-- Double a delay a number of times, but not beyond the first that reaches the limit. -/
def doubled (limit : Nat) : Nat → Nat → Nat
  | 0, delay => delay
  | times + 1, delay => if delay < limit then doubled limit times (delay * 2) else delay

theorem backoff_le (initial limit attempts : Nat) : backoff initial limit attempts ≤ limit :=
  Nat.min_le_right _ _

theorem min_doubled (limit times delay : Nat) :
    min (doubled limit times delay) limit = min (delay * 2 ^ times) limit := by
  induction times generalizing delay with
  | zero => rw [doubled, Nat.pow_zero, Nat.mul_one]
  | succ times ih =>
      rw [doubled]
      split
      · rw [ih, Nat.mul_assoc, Nat.pow_succ']
      · next reached =>
          have more : delay ≤ delay * 2 ^ (times + 1) :=
            Nat.le_mul_of_pos_right delay (Nat.two_pow_pos _)
          rw [Nat.min_eq_right (Nat.le_of_not_lt reached),
            Nat.min_eq_right (Nat.le_trans (Nat.le_of_not_lt reached) more)]

theorem backoff_one (initial limit : Nat) : backoff initial limit 1 = min initial limit := by
  rw [backoff, Nat.sub_self, Nat.pow_zero, Nat.mul_one]

/-- Doubling the delay and cutting it off once more gives the next one. -/
theorem min_backoff_mul_two (initial limit attempts : Nat) :
    min (backoff initial limit (attempts + 1) * 2) limit =
      backoff initial limit (attempts + 2) := by
  have next : initial * 2 ^ (attempts + 1) = initial * 2 ^ attempts * 2 := by
    rw [Nat.pow_succ, Nat.mul_assoc]
  simp only [backoff, Nat.add_sub_cancel, show attempts + 2 - 1 = attempts + 1 from rfl, next]
  omega

/-- No delay is shorter than the first. -/
theorem initial_le_backoff {initial limit : Nat} (within : initial ≤ limit) (attempts : Nat) :
    initial ≤ backoff initial limit attempts := by
  apply Nat.le_min.mpr
  constructor
  · exact Nat.le_mul_of_pos_right initial (Nat.two_pow_pos _)
  · exact within

/-- The delays after each of a number of failed attempts, added up. -/
def backoffTotal (initial limit : Nat) : Nat → Nat
  | 0 => 0
  | attempts + 1 => backoffTotal initial limit attempts + backoff initial limit (attempts + 1)

theorem backoffTotal_mono {initial limit attempts attempts' : Nat} (fewer : attempts ≤ attempts') :
    backoffTotal initial limit attempts ≤ backoffTotal initial limit attempts' := by
  induction fewer with
  | refl => exact Nat.le_refl _
  | step _ ih => exact Nat.le_add_right_of_le ih

/-- A delay kept in 32 bits is the delay itself, if the limit leaves room for doubling. -/
theorem backoff_toNat_doubled {initial attempts : Nat} {limit delay : UInt32}
    (room : limit.toNat < 2 ^ 31)
    (current : delay.toNat = backoff initial limit.toNat (attempts + 1)) :
    (min (delay * 2) limit).toNat = backoff initial limit.toNat (attempts + 2) := by
  have within : delay.toNat ≤ limit.toNat := current ▸ backoff_le _ _ _
  have twice : (delay * 2).toNat = delay.toNat * 2 := by
    rw [UInt32.toNat_mul]
    exact Nat.mod_eq_of_lt (by
      change delay.toNat * 2 < 2 ^ 32
      omega)
  rw [← min_backoff_mul_two, ← current, ← twice, UInt32.min_def]
  split
  · next below => exact (Nat.min_eq_left (UInt32.le_iff_toNat_le.mp below)).symm
  · next above =>
      rw [UInt32.le_iff_toNat_le] at above
      exact (Nat.min_eq_right (Nat.le_of_not_le above)).symm

/-- A count that saturates once the limit is reached. -/
theorem backoff_min {initial limit bound : Nat} (reached : limit ≤ initial * 2 ^ (bound - 1))
    (attempts : Nat) :
    backoff initial limit (min attempts bound) = backoff initial limit attempts := by
  cases Nat.le_total attempts bound with
  | inl few => rw [Nat.min_eq_left few]
  | inr many =>
      have more : initial * 2 ^ (bound - 1) ≤ initial * 2 ^ (attempts - 1) :=
        Nat.mul_le_mul_left initial
          (Nat.pow_le_pow_right Nat.two_pos (Nat.sub_le_sub_right many 1))
      rw [Nat.min_eq_right many, backoff, backoff, Nat.min_eq_right reached,
        Nat.min_eq_right (Nat.le_trans reached more)]

end Library
