import EspNmeaBridge.Library.Machine

/-!
# Unwinding

One party's view of a machine that others use too.  Some actions are inputs of the
party, the rest are hidden from it.  `Unwinds` is about single steps: a hidden step
leaves the view alone, and an input acts on it as on a machine of the party's own.
A run then shows the party what its own machine does with the inputs alone
(`Unwinds.exec`), whatever else happens in the run, so two runs with the same inputs
show it the same (`Unwinds.sameView`).
-/

namespace Library

universe u v w x

variable {State : Type u} {Action : Type v} {View : Type w} {Input : Type x}

/-- Step by step, `machine` looks like `alone` to the party: in states with `inv`,
for actions that meet `allowed`. -/
structure Unwinds (machine : Machine State Action) (alone : Machine View Input)
    (view : State → View) (input : Action → Option Input) (inv : State → Prop)
    (allowed : State → Action → Prop) : Prop where
  preserved : ∀ {state action next}, inv state → allowed state action →
    machine.step state action = some next → inv next
  hidden : ∀ {state action next}, inv state → allowed state action → input action = none →
    machine.step state action = some next → view next = view state
  shown : ∀ {state action own}, inv state → allowed state action → input action = some own →
    (machine.step state action).map view = alone.step (view state) own

namespace Unwinds

variable {machine : Machine State Action} {alone : Machine View Input} {view : State → View}
  {input : Action → Option Input} {inv : State → Prop} {allowed : State → Action → Prop}

/-- The view after a run is what the party's own machine makes of its inputs. -/
theorem exec (unwinds : Unwinds machine alone view input inv allowed) {start finish : State}
    {actions : List Action} (initial : inv start) (along : machine.Along allowed start actions)
    (run : machine.exec start actions = some finish) :
    inv finish ∧ alone.exec (view start) (actions.filterMap input) = some (view finish) := by
  induction actions generalizing start with
  | nil =>
      cases run
      exact ⟨initial, rfl⟩
  | cons action actions ih =>
      obtain ⟨next, taken, rest⟩ := Machine.exec_cons_eq_some.mp run
      obtain ⟨meets, later⟩ := along
      rw [taken] at later
      obtain ⟨kept, seen⟩ := ih (unwinds.preserved initial meets taken) later rest
      refine ⟨kept, ?_⟩
      cases own : input action with
      | none =>
          rw [List.filterMap_cons_none own, ← unwinds.hidden initial meets own taken]
          exact seen
      | some own' =>
          have moves := unwinds.shown initial meets own
          rw [taken] at moves
          rw [List.filterMap_cons_some own, Machine.exec_cons, ← moves]
          exact seen

/-- Two runs with the same inputs end with the same view. -/
theorem sameView (unwinds : Unwinds machine alone view input inv allowed)
    {start finish start' finish' : State} {actions actions' : List Action}
    (initial : inv start) (along : machine.Along allowed start actions)
    (run : machine.exec start actions = some finish)
    (initial' : inv start') (along' : machine.Along allowed start' actions')
    (run' : machine.exec start' actions' = some finish')
    (begins : view start = view start')
    (inputs : actions.filterMap input = actions'.filterMap input) : view finish = view finish' := by
  have seen := (unwinds.exec initial along run).2
  have seen' := (unwinds.exec initial' along' run').2
  rw [begins, inputs] at seen
  exact Option.some.inj (seen.symm.trans seen')

/-- Where the views agree, an input is possible in both states or in neither. -/
theorem sameEnabled (unwinds : Unwinds machine alone view input inv allowed)
    {state state' : State} {action : Action} {own : Input} (holds : inv state)
    (holds' : inv state') (meets : allowed state action) (meets' : allowed state' action)
    (isInput : input action = some own) (sees : view state = view state') :
    (machine.step state action).isSome = (machine.step state' action).isSome := by
  have moves := unwinds.shown holds meets isInput
  have moves' := unwinds.shown holds' meets' isInput
  rw [sees] at moves
  have equal := congrArg Option.isSome (moves.trans moves'.symm)
  simpa only [Option.isSome_map] using equal

end Unwinds

end Library
