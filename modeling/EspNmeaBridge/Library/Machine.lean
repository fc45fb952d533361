import Mathlib.Data.Option.Basic
import Mathlib.Data.List.Induction

/-!
# Machines driven by named actions

A machine is a partial step function: an action either is not enabled in a state
or leads to exactly one next state.  All nondeterminism, the schedule included,
is therefore in the list of actions, and a run is evaluated by ordinary
computation.

The rules below turn a fact about one step into a fact about every run, either
unconditionally (`Reachable.invariant`), under a condition that each step of the
run has to meet (`invariant_of_along`), or about the run together with its list
of actions (`exec_induction`).
-/

namespace Library

universe u v

/-- A state space with its initial states and its partial step function. -/
structure Machine (State : Type u) (Action : Type v) where
  init : State → Prop
  step : State → Action → Option State

namespace Machine

variable {State : Type u} {Action : Type v} (machine : Machine State Action)

/-- Execute the actions in order; `none` when one of them is not enabled. -/
def exec : State → List Action → Option State
  | state, [] => some state
  | state, action :: actions =>
      (machine.step state action).bind fun next => exec next actions

/-- States some run from an initial state ends in. -/
def Reachable (state : State) : Prop :=
  ∃ start actions, machine.init start ∧ machine.exec start actions = some state

/-- The steps of a run, each with the state it is taken from. -/
def trail : State → List Action → List (State × Action)
  | _, [] => []
  | state, action :: actions =>
      (state, action) ::
        match machine.step state action with
        | none => []
        | some next => trail next actions

/-- Every step of the run meets `allowed` in the state it is taken from. -/
def Along (allowed : State → Action → Prop) : State → List Action → Prop
  | _, [] => True
  | state, action :: actions =>
      allowed state action ∧
        match machine.step state action with
        | none => True
        | some next => Along allowed next actions

instance decidableAlong (allowed : State → Action → Prop)
    [∀ state action, Decidable (allowed state action)] :
    (state : State) → (actions : List Action) → Decidable (machine.Along allowed state actions)
  | _, [] => inferInstanceAs (Decidable True)
  | state, action :: actions =>
      match taken : machine.step state action with
      | none => decidable_of_iff (allowed state action) (by simp [Along, taken])
      | some next =>
          have := decidableAlong allowed next actions
          decidable_of_iff (allowed state action ∧ machine.Along allowed next actions)
            (by simp [Along, taken])

variable {machine}

@[simp] theorem exec_nil (state : State) : machine.exec state [] = some state := rfl

@[simp] theorem exec_cons (state : State) (action : Action) (actions : List Action) :
    machine.exec state (action :: actions) =
      (machine.step state action).bind fun next => machine.exec next actions := rfl

theorem exec_append (state : State) (first second : List Action) :
    machine.exec state (first ++ second) =
      (machine.exec state first).bind fun middle => machine.exec middle second := by
  induction first generalizing state with
  | nil => rfl
  | cons action actions ih =>
      simp only [List.cons_append, exec_cons, ih, Option.bind_assoc]

/-- Expose the last step of a run. -/
theorem exec_concat_eq_some {start finish : State} {actions : List Action} {action : Action} :
    machine.exec start (actions ++ [action]) = some finish ↔
      ∃ middle, machine.exec start actions = some middle ∧
        machine.step middle action = some finish := by
  simp [exec_append, Option.bind_eq_some_iff]

/-- Expose the first step of a run. -/
theorem exec_cons_eq_some {start finish : State} {actions : List Action} {action : Action} :
    machine.exec start (action :: actions) = some finish ↔
      ∃ next, machine.step start action = some next ∧
        machine.exec next actions = some finish := by
  simp [Option.bind_eq_some_iff]

/-- The last step of a run comes last in its trail. -/
theorem trail_concat {start middle : State} {actions : List Action} (action : Action)
    (run : machine.exec start actions = some middle) :
    machine.trail start (actions ++ [action]) =
      machine.trail start actions ++ [(middle, action)] := by
  induction actions generalizing start with
  | nil =>
      cases run
      cases taken : machine.step middle action <;> simp [trail, taken]
  | cons first actions ih =>
      obtain ⟨next, taken, rest⟩ := exec_cons_eq_some.mp run
      simp only [List.cons_append, trail, taken, ih rest]

theorem length_trail_le (start : State) (actions : List Action) :
    (machine.trail start actions).length ≤ actions.length := by
  induction actions generalizing start with
  | nil => exact Nat.le_refl _
  | cons action actions ih =>
      apply Nat.succ_le_succ
      cases machine.step start action with
      | none => exact Nat.zero_le _
      | some next => exact ih next

/-- Induction over runs, last step first: the motive may speak about the list of
actions that led to the state. -/
theorem exec_induction {start : State} {motive : List Action → State → Prop}
    (nil : motive [] start)
    (concat : ∀ actions state action next,
      machine.exec start actions = some state → motive actions state →
      machine.step state action = some next → motive (actions ++ [action]) next)
    {actions : List Action} {finish : State}
    (run : machine.exec start actions = some finish) : motive actions finish := by
  induction actions using List.reverseRecOn generalizing finish with
  | nil =>
      cases run
      exact nil
  | append_singleton actions action ih =>
      obtain ⟨middle, reached, taken⟩ := exec_concat_eq_some.mp run
      exact concat actions middle action finish reached (ih reached) taken

/-- What every step of a run meets, each of its recorded steps meets. -/
theorem forall_mem_trail {start finish : State} {actions : List Action}
    (holds : State → Action → Prop) (run : machine.exec start actions = some finish)
    (each : ∀ before state action next, machine.exec start before = some state →
      machine.step state action = some next → holds state action) :
    ∀ entry ∈ machine.trail start actions, holds entry.1 entry.2 := by
  apply exec_induction (motive := fun actions _ =>
    ∀ entry ∈ machine.trail start actions, holds entry.1 entry.2) _ _ run
  · intro entry member
    cases member
  · intro actions state action next reached earlier taken entry member
    rw [trail_concat action reached, List.mem_append, List.mem_singleton] at member
    cases member with
    | inl old => exact earlier entry old
    | inr last =>
        rw [last]
        exact each actions state action next reached taken

/-- The invariant rule: what holds initially and is kept by every step holds in
every reachable state. -/
theorem Reachable.invariant (inv : State → Prop)
    (initial : ∀ state, machine.init state → inv state)
    (preserved : ∀ state action next, inv state →
      machine.step state action = some next → inv next)
    {state : State} (reachable : machine.Reachable state) : inv state := by
  obtain ⟨start, actions, begins, run⟩ := reachable
  exact exec_induction (motive := fun _ state => inv state) (initial start begins)
    (fun _ state action next _ holds taken => preserved state action next holds taken) run

theorem Reachable.exec {start finish : State} {actions : List Action}
    (reachable : machine.Reachable start) (run : machine.exec start actions = some finish) :
    machine.Reachable finish := by
  obtain ⟨origin, before, initial, reached⟩ := reachable
  refine ⟨origin, before ++ actions, initial, ?_⟩
  rw [exec_append, reached]
  exact run

theorem Reachable.step {state next : State} {action : Action}
    (reachable : machine.Reachable state) (taken : machine.step state action = some next) :
    machine.Reachable next := by
  have run : machine.exec state [action] = some next := by simp [taken]
  exact reachable.exec run

/-- One party alone: if its action is always possible until it is done, keeps `inv`
and makes `remaining` smaller, then repeating it gets it done. -/
theorem exists_exec_replicate (inv finished : State → Prop) (remaining : State → Nat)
    (action : Action)
    (progress : ∀ state, inv state → ¬ finished state →
      ∃ next, machine.step state action = some next ∧ inv next ∧ remaining next < remaining state)
    {state : State} (holds : inv state) :
    ∃ count finish, machine.exec state (List.replicate count action) = some finish ∧
      inv finish ∧ finished finish := by
  induction size : remaining state using Nat.strongRecOn generalizing state with
  | ind size ih =>
      by_cases stop : finished state
      · exact ⟨0, state, rfl, holds, stop⟩
      · obtain ⟨next, taken, kept, smaller⟩ := progress state holds stop
        obtain ⟨count, finish, run, reached⟩ := ih _ (size ▸ smaller) kept rfl
        refine ⟨count + 1, finish, ?_, reached⟩
        rw [List.replicate_succ, exec_cons, taken]
        exact run

/-- The invariant rule for runs all of whose steps meet a condition. -/
theorem invariant_of_along (inv : State → Prop) (allowed : State → Action → Prop)
    (preserved : ∀ state action next, inv state → allowed state action →
      machine.step state action = some next → inv next)
    {start finish : State} {actions : List Action} (initial : inv start)
    (along : machine.Along allowed start actions)
    (run : machine.exec start actions = some finish) : inv finish := by
  induction actions generalizing start with
  | nil =>
      cases run
      exact initial
  | cons action actions ih =>
      obtain ⟨next, taken, rest⟩ := exec_cons_eq_some.mp run
      obtain ⟨meets, later⟩ := along
      rw [taken] at later
      exact ih (preserved start action next initial meets taken) later rest

/-- A run whose steps meet a condition, and one step more. -/
theorem along_concat {allowed : State → Action → Prop} {start middle : State}
    {actions : List Action} (action : Action)
    (run : machine.exec start actions = some middle) :
    machine.Along allowed start (actions ++ [action]) ↔
      machine.Along allowed start actions ∧ allowed middle action := by
  induction actions generalizing start with
  | nil =>
      cases run
      cases taken : machine.step middle action <;> simp [Along, taken]
  | cons first actions ih =>
      obtain ⟨next, taken, rest⟩ := exec_cons_eq_some.mp run
      simp only [List.cons_append, Along, taken, ih rest, and_assoc]

/-- Induction over the runs all of whose steps meet a condition. -/
theorem along_induction {allowed : State → Action → Prop} {start : State}
    {motive : List Action → State → Prop} (nil : motive [] start)
    (concat : ∀ actions state action next,
      machine.exec start actions = some state → motive actions state → allowed state action →
      machine.step state action = some next → motive (actions ++ [action]) next)
    {actions : List Action} {finish : State} (along : machine.Along allowed start actions)
    (run : machine.exec start actions = some finish) : motive actions finish := by
  revert along
  apply exec_induction (motive := fun actions finish =>
    machine.Along allowed start actions → motive actions finish) _ _ run
  · intro _
    exact nil
  · intro actions state action next reached earlier taken along
    obtain ⟨before, meets⟩ := (along_concat action reached).mp along
    exact concat actions state action next reached (earlier before) meets taken

/-- Two conditions on steps that agree wherever an invariant holds are met by the
same runs. -/
theorem along_congr (inv : State → Prop) (allowed allowed' : State → Action → Prop)
    (preserved : ∀ state action next, inv state →
      machine.step state action = some next → inv next)
    (agree : ∀ state action, inv state → (allowed state action ↔ allowed' state action))
    {start : State} (initial : inv start) (actions : List Action) :
    machine.Along allowed start actions ↔ machine.Along allowed' start actions := by
  induction actions generalizing start with
  | nil => exact Iff.rfl
  | cons action actions ih =>
      apply and_congr (agree start action initial)
      cases taken : machine.step start action with
      | none => exact Iff.rfl
      | some next => exact ih (preserved start action next initial taken)

theorem along_of_forall {allowed : State → Action → Prop}
    (always : ∀ state action, allowed state action) (start : State) (actions : List Action) :
    machine.Along allowed start actions := by
  induction actions generalizing start with
  | nil => trivial
  | cons action actions ih =>
      constructor
      · exact always start action
      · cases machine.step start action with
        | none => trivial
        | some next => exact ih next

/-- A view of the states under which every allowed step is a step of another machine, or
none, takes runs to runs. -/
theorem exec_view {State' : Type u} {Action' : Type v} {other : Machine State' Action'}
    (view : State → State') (allowed : State → Action → Prop)
    (simulates : ∀ state action next, allowed state action →
      machine.step state action = some next →
      view next = view state ∨ ∃ action', other.step (view state) action' = some (view next))
    {start finish : State} {actions : List Action}
    (along : machine.Along allowed start actions)
    (run : machine.exec start actions = some finish) :
    ∃ actions', other.exec (view start) actions' = some (view finish) := by
  apply invariant_of_along
    (fun state => ∃ actions', other.exec (view start) actions' = some (view state)) allowed
    _ ⟨[], rfl⟩ along run
  intro state action next reached meets taken
  obtain ⟨actions', reached⟩ := reached
  cases simulates state action next meets taken with
  | inl same => exact ⟨actions', by rw [same, reached]⟩
  | inr moves =>
      obtain ⟨action', moved⟩ := moves
      exact ⟨actions' ++ [action'], exec_concat_eq_some.mpr ⟨_, reached, moved⟩⟩

/-- A relation under which every step is matched by some steps of another machine takes runs
to runs. -/
theorem exec_simulates {State' : Type u} {Action' : Type v} {other : Machine State' Action'}
    (relates : State → State' → Prop)
    (simulates : ∀ state state' action next, relates state state' →
      machine.step state action = some next →
      ∃ actions' next', other.exec state' actions' = some next' ∧ relates next next')
    {start finish : State} {start' : State'} {actions : List Action}
    (initial : relates start start') (run : machine.exec start actions = some finish) :
    ∃ actions' finish', other.exec start' actions' = some finish' ∧ relates finish finish' := by
  induction actions generalizing start start' with
  | nil =>
      cases run
      exact ⟨[], start', rfl, initial⟩
  | cons action actions ih =>
      obtain ⟨next, taken, rest⟩ := exec_cons_eq_some.mp run
      obtain ⟨first, next', moved, related⟩ := simulates start start' action next initial taken
      obtain ⟨later, finish', reached, related⟩ := ih related rest
      refine ⟨first ++ later, finish', ?_, related⟩
      rw [exec_append, moved]
      exact reached

end Machine

end Library
