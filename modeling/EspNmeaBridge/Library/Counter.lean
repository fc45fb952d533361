import Mathlib.Algebra.GroupWithZero.Nat
import Mathlib.Data.Nat.Basic
import Mathlib.Data.UInt

/-!
# Wrapping event counters

A 32-bit counter that is incremented once per event holds the number of events
modulo `2 ^ 32`.
-/

namespace Library

/-- Events a wrapping counter misses go unnoticed exactly when their number is a
multiple of the counter's modulus. -/
theorem counter_eq_add_iff (seen missed : Nat) :
    UInt32.ofNat seen = UInt32.ofNat (seen + missed) ↔ 2 ^ 32 ∣ missed := by
  rw [← UInt32.toNat_inj, UInt32.toNat_ofNat', UInt32.toNat_ofNat']
  omega

@[simp] theorem counter_succ (seen : Nat) :
    UInt32.ofNat (seen + 1) = UInt32.ofNat seen + 1 := by
  rw [UInt32.ofNat_add]
  rfl

/-- Before it wraps, a counter is zero exactly when nothing was counted. -/
theorem counter_eq_zero_iff {seen : Nat} (small : seen < 2 ^ 32) :
    UInt32.ofNat seen = 0 ↔ seen = 0 := by
  constructor
  · intro zero
    have wraps := (counter_eq_add_iff 0 seen).mp (by rw [Nat.zero_add, zero]; rfl)
    exact Nat.eq_zero_of_dvd_of_lt wraps small
  · intro none
    rw [none]
    rfl

/-- Counters add up to a counter of all their events. -/
theorem counter_sum {α : Type} (items : List α) (counts : α → Nat) :
    (items.map fun item => UInt32.ofNat (counts item)).sum =
      UInt32.ofNat (items.map counts).sum := by
  induction items with
  | nil => rfl
  | cons item items ih => simp only [List.map_cons, List.sum_cons, ih, UInt32.ofNat_add]

end Library
