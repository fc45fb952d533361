import Mathlib.Data.List.Induction
import Mathlib.Data.List.Infix

/-!
# Latches over histories

A latch is set by some events of a history and cleared by others.  It is closed
after a history exactly when a setting event has not been followed by a clearing
one; whether an event sets the latch may depend on what came before it.
-/

namespace Library

universe u

variable {Event : Type u}

/-- Some event of the history has set the latch and no later one has cleared it. -/
def Latched (sets : List Event → Event → Prop) (clears : Event → Prop)
    (history : List Event) : Prop :=
  ∃ before event after, history = before ++ event :: after ∧ sets before event ∧
    ∀ later ∈ after, ¬clears later

variable {sets : List Event → Event → Prop} {clears : Event → Prop}

@[simp] theorem not_latched_nil : ¬Latched sets clears [] := by
  rintro ⟨before, event, after, history, _⟩
  simp at history

/-- One more event closes the latch if it sets it, and otherwise leaves it as it
was unless it clears it. -/
theorem latched_concat (history : List Event) (event : Event) :
    Latched sets clears (history ++ [event]) ↔
      sets history event ∨ (Latched sets clears history ∧ ¬clears event) := by
  constructor
  · rintro ⟨before, setter, after, split, isSet, kept⟩
    rcases List.eq_nil_or_concat after with rfl | ⟨front, last, shape⟩
    · obtain ⟨equal, same⟩ := List.append_inj' split rfl
      obtain rfl := List.singleton_inj.mp same
      exact Or.inl (equal ▸ isSet)
    · subst shape
      have grouped : history ++ [event] = (before ++ setter :: front) ++ [last] := by
        simpa using split
      obtain ⟨equal, same⟩ := List.append_inj' grouped rfl
      obtain rfl := List.singleton_inj.mp same
      exact Or.inr ⟨⟨before, setter, front, equal, isSet,
        fun later member => kept later (by simp [member])⟩, kept event (by simp)⟩
  · rintro (isSet | ⟨⟨before, setter, after, rfl, isSet, kept⟩, cleared⟩)
    · exact ⟨history, event, [], rfl, isSet, by simp⟩
    · refine ⟨before, setter, after ++ [event], by simp, isSet, ?_⟩
      intro later member
      rcases List.mem_append.mp member with earlier | last
      · exact kept later earlier
      · rw [List.mem_singleton.mp last]
        exact cleared

end Library
