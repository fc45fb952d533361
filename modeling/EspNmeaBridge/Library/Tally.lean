import Mathlib.Data.List.Nodup
import Mathlib.Logic.Function.Basic

/-!
# Tallies

How many of a set of parties are in a state that counts.  A step of one party moves
the tally by what its own state gains or loses, which is how a counter that each
party keeps for itself comes to agree with the states of all of them.
-/

namespace Library

universe u v

variable {ι : Type u} {α : Type v}

/-- The number of holders whose value counts. -/
def tally (holders : List ι) (value : ι → α) (counts : α → Bool) : Nat :=
  holders.countP fun holder => counts (value holder)

section Tally

variable {holders : List ι} {value value' : ι → α} {counts counts' : α → Bool} {holder : ι}

theorem tally_le_tally
    (implies : ∀ holder, counts (value holder) = true → counts' (value' holder) = true) :
    tally holders value counts ≤ tally holders value' counts' :=
  List.countP_mono_left fun holder _ => implies holder

theorem tally_congr (same : ∀ holder, counts (value holder) = counts' (value' holder)) :
    tally holders value counts = tally holders value' counts' :=
  List.countP_congr fun holder _ => by rw [same]

theorem tally_pos (member : holder ∈ holders) (counted : counts (value holder) = true) :
    0 < tally holders value counts :=
  List.countP_pos_iff.mpr ⟨holder, member, counted⟩

theorem tally_eq_zero (none : ∀ holder, counts (value holder) = false) :
    tally holders value counts = 0 := by
  apply List.countP_eq_zero.mpr
  intro holder _
  simp [none]

/-- One holder changes its value. -/
theorem tally_update [DecidableEq ι] (distinct : holders.Nodup) (member : holder ∈ holders)
    (new : α) :
    tally holders (Function.update value holder new) counts + (counts (value holder)).toNat =
      tally holders value counts + (counts new).toNat := by
  induction holders with
  | nil => cases member
  | cons first rest ih =>
      rw [List.nodup_cons] at distinct
      unfold tally at ih ⊢
      rw [List.countP_cons, List.countP_cons]
      by_cases here : first = holder
      · subst here
        have others : rest.countP (fun other => counts (Function.update value first new other)) =
            rest.countP fun other => counts (value other) := by
          apply List.countP_congr
          intro other isOther
          have different : other ≠ first := by
            intro same
            exact distinct.1 (same ▸ isOther)
          rw [Function.update_of_ne different]
        rw [others, Function.update_self]
        cases counts new <;> cases counts (value first) <;> simp
      · have later := ih distinct.2 ((List.mem_cons.mp member).resolve_left (Ne.symm here))
        rw [Function.update_of_ne here]
        omega

end Tally

end Library
