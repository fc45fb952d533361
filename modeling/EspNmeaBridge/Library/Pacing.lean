import EspNmeaBridge.Library.Machine

/-!
# Adding up a run

Each step of a run has a weight: the time it takes, or the number of events of some kind
in it.  Two totals over a run are compared with a potential, a part of the one that the
other has not used up yet.  The comparison of one step then gives that of the whole run.
-/

namespace Library

universe u v

namespace Machine

variable {State : Type u} {Action : Type v} (machine : Machine State Action)

/-- The weights of the steps of a run, added up. -/
def total (weight : State → Action → Nat) : State → List Action → Nat
  | _, [] => 0
  | state, action :: actions =>
      weight state action +
        match machine.step state action with
        | none => 0
        | some next => total weight next actions

variable {machine} {weight : State → Action → Nat}

@[simp] theorem total_nil (state : State) : machine.total weight state [] = 0 := rfl

/-- The last step adds its weight. -/
theorem total_concat {start middle : State} {actions : List Action} (action : Action)
    (run : machine.exec start actions = some middle) :
    machine.total weight start (actions ++ [action]) =
      machine.total weight start actions + weight middle action := by
  induction actions generalizing start with
  | nil =>
      cases run
      cases taken : machine.step middle action <;> simp [total, taken]
  | cons first actions ih =>
      obtain ⟨next, taken, rest⟩ := exec_cons_eq_some.mp run
      simp only [List.cons_append, total, taken, ih rest, Nat.add_assoc]

theorem total_mul (factor : Nat) (start : State) (actions : List Action) :
    machine.total (fun state action => factor * weight state action) start actions =
      factor * machine.total weight start actions := by
  induction actions generalizing start with
  | nil => rfl
  | cons action actions ih =>
      simp only [total, Nat.mul_add]
      cases machine.step start action with
      | none => rfl
      | some next => simp only [ih]

/-- The potential method: if in every allowed step the gain is paid for by what is spent in
it and by the potential it uses up, then so is the gain of every run of such steps. -/
theorem total_le_of_potential (inv : State → Prop) (allowed : State → Action → Prop)
    (gain spend : State → Action → Nat) (potential : State → Nat)
    (preserved : ∀ state action next, inv state → allowed state action →
      machine.step state action = some next → inv next)
    (paid : ∀ state action next, inv state → allowed state action →
      machine.step state action = some next →
      gain state action + potential next ≤ potential state + spend state action)
    {start finish : State} {actions : List Action} (initial : inv start)
    (along : machine.Along allowed start actions)
    (run : machine.exec start actions = some finish) :
    machine.total gain start actions + potential finish ≤
      potential start + machine.total spend start actions := by
  induction actions generalizing start with
  | nil =>
      cases run
      simp
  | cons action actions ih =>
      obtain ⟨next, taken, rest⟩ := exec_cons_eq_some.mp run
      obtain ⟨meets, later⟩ := along
      rw [taken] at later
      have first := paid start action next initial meets taken
      have others := ih (preserved start action next initial meets taken) later rest
      simp only [total, taken]
      omega

/-- What always brings an end closer, while nothing moves the end away, happens no more often
than the end is far. -/
theorem total_le_of_remaining (inv : State → Prop) (allowed : State → Action → Prop)
    (gain : State → Action → Nat) (remaining : State → Nat)
    (preserved : ∀ state action next, inv state → allowed state action →
      machine.step state action = some next → inv next)
    (closer : ∀ state action next, inv state → allowed state action →
      machine.step state action = some next →
      gain state action + remaining next ≤ remaining state)
    {start finish : State} {actions : List Action} (initial : inv start)
    (along : machine.Along allowed start actions)
    (run : machine.exec start actions = some finish) :
    machine.total gain start actions ≤ remaining start := by
  have bounded : machine.total gain start actions + remaining finish ≤
      remaining start +
        machine.total (fun state action => 0 * gain state action) start actions := by
    apply total_le_of_potential inv allowed _ _ remaining preserved _ initial along run
    intro state action next holds meets taken
    rw [Nat.zero_mul, Nat.add_zero]
    exact closer state action next holds meets taken
  rw [total_mul, Nat.zero_mul, Nat.add_zero] at bounded
  exact Nat.le_of_add_right_le bounded

end Machine

end Library
