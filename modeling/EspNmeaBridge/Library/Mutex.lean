import EspNmeaBridge.Library.Pacing
import Mathlib.Logic.Function.Basic

/-!
# Sections under mutexes

The steps a thread makes under a mutex form a section.  A machine says in which order the
steps of its threads may come; here the taking and the giving back of the mutexes become
steps of their own, so that a thread can be kept waiting by one that is in its section or
has not given the mutex back yet.

What has to be shown of the machine is that nobody else moves a thread that is at a section,
and that a section that has been entered can be gone on with.  Then every run is one of the
machine itself, and the other way round (`exec_state`, `exists_exec`), a mutex has one holder,
whoever waits waits for a thread that does not, and the own steps of a thread can be counted
(`held_le`, `busy_le`).
-/

namespace Library

/-- How the threads of a machine use mutexes: whose step an action is, the mutex under which
a thread makes its next step, and whether its section ends with that step. -/
structure Locking (State Action Thread Mutex : Type) where
  thread : Action → Thread
  guard : State → Thread → Option Mutex
  last : State → Action → Bool

/-- Where a thread is between its steps: outside of a section, in it, or at its end with the
mutex not given back yet. -/
inductive Phase (Mutex : Type) where
  | outside
  | inside (mutex : Mutex)
  | leaving (mutex : Mutex)
  deriving DecidableEq, Repr

namespace Phase

variable {Mutex : Type}

/-- The mutex that a thread in this phase holds. -/
def mutex? : Phase Mutex → Option Mutex
  | .outside => none
  | .inside mutex | .leaving mutex => some mutex

@[simp] theorem mutex?_outside : (outside : Phase Mutex).mutex? = none := rfl

@[simp] theorem mutex?_inside (mutex : Mutex) : (inside mutex).mutex? = some mutex := rfl

@[simp] theorem mutex?_leaving (mutex : Mutex) : (leaving mutex).mutex? = some mutex := rfl

end Phase

/-- The state of a machine, the phases of its threads, and the holders of the mutexes. -/
structure Locked (State Thread Mutex : Type) where
  state : State
  phase : Thread → Phase Mutex := fun _ => .outside
  holder : Mutex → Option Thread := fun _ => none

inductive LockAction (Action Thread : Type) where
  | lock (thread : Thread)
  | step (action : Action)
  | unlock (thread : Thread)
  deriving DecidableEq, Repr

namespace Locking

variable {State Action Thread Mutex : Type} [DecidableEq Thread] [DecidableEq Mutex]
  (locking : Locking State Action Thread Mutex) (base : Machine State Action)

def step (locked : Locked State Thread Mutex) :
    LockAction Action Thread → Option (Locked State Thread Mutex)
  | .lock thread =>
      match locked.phase thread, locking.guard locked.state thread with
      | .outside, some mutex =>
          if locked.holder mutex = none then
            some { locked with
              phase := Function.update locked.phase thread (.inside mutex)
              holder := Function.update locked.holder mutex (some thread) }
          else none
      | _, _ => none
  | .step action =>
      match locked.phase (locking.thread action) with
      | .outside =>
          if locking.guard locked.state (locking.thread action) = none then
            (base.step locked.state action).map fun state => { locked with state }
          else none
      | .inside mutex =>
          (base.step locked.state action).map fun state =>
            { locked with
              state
              phase :=
                if locking.last locked.state action then
                  Function.update locked.phase (locking.thread action) (.leaving mutex)
                else locked.phase }
      | .leaving _ => none
  | .unlock thread =>
      match locked.phase thread with
      | .leaving mutex =>
          some { locked with
            phase := Function.update locked.phase thread .outside
            holder := Function.update locked.holder mutex none }
      | .outside | .inside _ => none

/-- The machine with its mutexes, all of them free at the beginning. -/
def machine : Machine (Locked State Thread Mutex) (LockAction Action Thread) where
  init locked := ∃ state, base.init state ∧ locked = { state }
  step := locking.step base

/-- Whose step it is. -/
def actor : LockAction Action Thread → Thread
  | .lock thread | .unlock thread => thread
  | .step action => locking.thread action

/-- What a step can do. -/
inductive Moves (locked : Locked State Thread Mutex) :
    LockAction Action Thread → Locked State Thread Mutex → Prop where
  | locks {thread mutex} (outside : locked.phase thread = .outside)
      (guarded : locking.guard locked.state thread = some mutex)
      (free : locked.holder mutex = none) :
      Moves locked (.lock thread)
        { locked with
          phase := Function.update locked.phase thread (.inside mutex)
          holder := Function.update locked.holder mutex (some thread) }
  | steps {action state} (outside : locked.phase (locking.thread action) = .outside)
      (unguarded : locking.guard locked.state (locking.thread action) = none)
      (taken : base.step locked.state action = some state) :
      Moves locked (.step action) { locked with state }
  | continues {action state mutex} (inside : locked.phase (locking.thread action) = .inside mutex)
      (goesOn : locking.last locked.state action = false)
      (taken : base.step locked.state action = some state) :
      Moves locked (.step action) { locked with state }
  | finishes {action state mutex} (inside : locked.phase (locking.thread action) = .inside mutex)
      (last : locking.last locked.state action = true)
      (taken : base.step locked.state action = some state) :
      Moves locked (.step action)
        { locked with
          state
          phase := Function.update locked.phase (locking.thread action) (.leaving mutex) }
  | unlocks {thread mutex} (leaving : locked.phase thread = .leaving mutex) :
      Moves locked (.unlock thread)
        { locked with
          phase := Function.update locked.phase thread .outside
          holder := Function.update locked.holder mutex none }

variable {locking base} {locked next : Locked State Thread Mutex}
  {action : LockAction Action Thread}

theorem moves_of_step (taken : (locking.machine base).step locked action = some next) :
    locking.Moves base locked action next := by
  cases action with
  | lock thread =>
      simp only [machine, step] at taken
      split at taken
      · split at taken
        · cases taken
          exact .locks ‹_› ‹_› ‹_›
        · contradiction
      · contradiction
  | step action =>
      simp only [machine, step] at taken
      split at taken
      · split at taken
        · obtain ⟨state, moved, rfl⟩ := Option.map_eq_some_iff.mp taken
          exact .steps ‹_› ‹_› moved
        · contradiction
      · obtain ⟨state, moved, rfl⟩ := Option.map_eq_some_iff.mp taken
        rename_i inside
        cases last : locking.last locked.state action with
        | true => exact .finishes inside last moved
        | false => exact .continues inside last moved
      · contradiction
  | unlock thread =>
      cases phase : locked.phase thread with
      | outside | inside mutex => simp [machine, step, phase] at taken
      | leaving mutex =>
          simp only [machine, step, phase, Option.some.injEq] at taken
          subst taken
          exact .unlocks phase

/-- Without its mutexes, a step is one of the machine, or none. -/
theorem moves_state (moves : locking.Moves base locked action next) :
    next.state = locked.state ∨ ∃ action, base.step locked.state action = some next.state := by
  cases moves with
  | locks | unlocks => exact .inl rfl
  | steps _ _ taken | continues _ _ taken | finishes _ _ taken => exact .inr ⟨_, taken⟩

/-- Every run is one of the machine. -/
theorem exec_state {start finish : Locked State Thread Mutex}
    {actions : List (LockAction Action Thread)}
    (run : (locking.machine base).exec start actions = some finish) :
    ∃ actions', base.exec start.state actions' = some finish.state := by
  apply Machine.exec_view Locked.state (fun _ _ => True) _
    (Machine.along_of_forall (fun _ _ => trivial) start actions) run
  exact fun _ _ _ _ taken => moves_state (moves_of_step taken)

theorem reachable_state (reachable : (locking.machine base).Reachable locked) :
    base.Reachable locked.state := by
  obtain ⟨start, actions, ⟨state, initial, rfl⟩, run⟩ := reachable
  obtain ⟨actions', run'⟩ := exec_state run
  exact ⟨state, actions', initial, run'⟩

/-- What a machine has to keep to for its sections.  `Midway` threads have made a step of
their section and not the last one, and `After` describes those at the end of theirs. -/
structure Disciplined (locking : Locking State Action Thread Mutex) (base : Machine State Action)
    (Midway After : State → Thread → Mutex → Prop) : Prop where
  /-- Nobody else moves a thread that is at a section. -/
  stays : ∀ {state action next thread mutex}, base.Reachable state →
    base.step state action = some next → locking.thread action ≠ thread →
    locking.guard state thread = some mutex → locking.guard next thread = some mutex
  continues : ∀ {state action next mutex}, base.Reachable state →
    base.step state action = some next → locking.guard state (locking.thread action) = some mutex →
    locking.last state action = false → locking.guard next (locking.thread action) = some mutex
  unbegun : ∀ {state thread mutex}, base.init state → ¬ Midway state thread mutex
  begins : ∀ {state action next thread mutex}, base.Reachable state →
    base.step state action = some next → Midway next thread mutex →
    if locking.thread action = thread then
      locking.guard state thread = some mutex ∧ locking.last state action = false
    else Midway state thread mutex
  finishes : ∀ {state action next mutex}, base.Reachable state →
    base.step state action = some next → locking.guard state (locking.thread action) = some mutex →
    locking.last state action = true → After next (locking.thread action) mutex
  rests : ∀ {state action next thread mutex}, base.Reachable state →
    base.step state action = some next → locking.thread action ≠ thread →
    After state thread mutex → After next thread mutex
  /-- With nobody else midway in it, a thread can go on with its section. -/
  goesOn : ∀ {state thread mutex}, base.Reachable state →
    locking.guard state thread = some mutex →
    (∀ other, other ≠ thread → ¬ Midway state other mutex) →
    ∃ action, locking.thread action = thread ∧ base.step state action ≠ none

/-- Who holds what. -/
structure Orderly (locking : Locking State Action Thread Mutex)
    (Midway After : State → Thread → Mutex → Prop) (locked : Locked State Thread Mutex) :
    Prop where
  holds : ∀ thread mutex,
    locked.holder mutex = some thread ↔ (locked.phase thread).mutex? = some mutex
  inside : ∀ thread mutex, locked.phase thread = .inside mutex →
    locking.guard locked.state thread = some mutex
  midway : ∀ thread mutex, Midway locked.state thread mutex →
    locked.phase thread = .inside mutex
  leaving : ∀ thread mutex, locked.phase thread = .leaving mutex →
    After locked.state thread mutex

section Orderly

variable {Midway After : State → Thread → Mutex → Prop}

theorem Orderly.of_initial (disciplined : Disciplined locking base Midway After)
    (initial : (locking.machine base).init locked) : Orderly locking Midway After locked := by
  obtain ⟨state, begins, rfl⟩ := initial
  constructor
  · simp
  · simp
  · intro thread mutex midway
    exact absurd midway (disciplined.unbegun begins)
  · simp

omit [DecidableEq Thread] [DecidableEq Mutex] in
/-- Two threads do not hold one mutex. -/
theorem Orderly.unique (orderly : Orderly locking Midway After locked) {thread other : Thread}
    {mutex : Mutex} (holds : (locked.phase thread).mutex? = some mutex)
    (holds' : (locked.phase other).mutex? = some mutex) : thread = other := by
  have first := (orderly.holds thread mutex).mpr holds
  have second := (orderly.holds other mutex).mpr holds'
  exact Option.some.inj (first.symm.trans second)

omit [DecidableEq Mutex] in
/-- A step of the machine that leaves the phases as they are. -/
theorem Orderly.step_state (disciplined : Disciplined locking base Midway After)
    (orderly : Orderly locking Midway After locked) (reachable : base.Reachable locked.state)
    {action : Action} {state : State} (taken : base.step locked.state action = some state)
    (phase : ∀ mutex, locked.phase (locking.thread action) ≠ .leaving mutex)
    (goesOn : locking.guard locked.state (locking.thread action) = none ∨
      locking.last locked.state action = false)
    (guarded : ∀ mutex, locking.guard locked.state (locking.thread action) = some mutex →
      locked.phase (locking.thread action) = .inside mutex) :
    Orderly locking Midway After { locked with state } := by
  constructor
  · exact orderly.holds
  · intro thread mutex inside
    have guard := orderly.inside thread mutex inside
    by_cases own : locking.thread action = thread
    · subst own
      exact disciplined.continues reachable taken guard (goesOn.resolve_left (by simp [guard]))
    · exact disciplined.stays reachable taken own guard
  · intro thread mutex midway
    have before := disciplined.begins reachable taken midway
    by_cases own : locking.thread action = thread
    · subst own
      rw [if_pos rfl] at before
      exact guarded mutex before.1
    · rw [if_neg own] at before
      exact orderly.midway thread mutex before
  · intro thread mutex leaving
    have rests := orderly.leaving thread mutex leaving
    have other : locking.thread action ≠ thread := by
      rintro rfl
      exact phase mutex leaving
    exact disciplined.rests reachable taken other rests

/-- A mutex that was free is taken. -/
theorem Orderly.lock (orderly : Orderly locking Midway After locked) {thread : Thread}
    {mutex : Mutex} (outside : locked.phase thread = .outside)
    (guarded : locking.guard locked.state thread = some mutex)
    (free : locked.holder mutex = none) :
    Orderly locking Midway After
      { locked with
        phase := Function.update locked.phase thread (.inside mutex)
        holder := Function.update locked.holder mutex (some thread) } := by
  constructor
  · intro other mutex'
    have before := orderly.holds other mutex'
    by_cases own : other = thread
    · subst own
      rw [outside] at before
      by_cases same : mutex' = mutex
      · simp [same]
      · simp [same, before, Ne.symm same]
    · by_cases same : mutex' = mutex
      · subst same
        rw [free] at before
        simpa [own, Ne.symm own] using before
      · simpa [own, same] using before
  · intro other mutex'
    by_cases own : other = thread
    · subst own
      simp [guarded]
    · simpa [own] using orderly.inside other mutex'
  · intro other mutex' midway
    have inside := orderly.midway other mutex' midway
    have own : other ≠ thread := by
      rintro rfl
      simp [outside] at inside
    simpa [own] using inside
  · intro other mutex'
    by_cases own : other = thread
    · simp [own]
    · simpa [own] using orderly.leaving other mutex'

omit [DecidableEq Mutex] in
/-- The last step of a section. -/
theorem Orderly.finish (disciplined : Disciplined locking base Midway After)
    (orderly : Orderly locking Midway After locked) (reachable : base.Reachable locked.state)
    {action : Action} {state : State} {mutex : Mutex}
    (inside : locked.phase (locking.thread action) = .inside mutex)
    (last : locking.last locked.state action = true)
    (taken : base.step locked.state action = some state) :
    Orderly locking Midway After
      { locked with
        state
        phase := Function.update locked.phase (locking.thread action) (.leaving mutex) } := by
  have guard := orderly.inside _ mutex inside
  constructor
  · intro other mutex'
    have before := orderly.holds other mutex'
    by_cases own : other = locking.thread action
    · subst own
      rw [inside] at before
      simpa using before
    · simpa [own] using before
  · intro other mutex' inside'
    by_cases own : other = locking.thread action
    · simp [own] at inside'
    · simp only [Function.update_of_ne own] at inside'
      exact disciplined.stays reachable taken (Ne.symm own) (orderly.inside other mutex' inside')
  · intro other mutex' midway
    have before := disciplined.begins reachable taken midway
    by_cases own : locking.thread action = other
    · rw [if_pos own, last] at before
      exact absurd before.2 (by simp)
    · rw [if_neg own] at before
      simpa [Ne.symm own] using orderly.midway other mutex' before
  · intro other mutex' leaving
    by_cases own : other = locking.thread action
    · subst own
      simp only [Function.update_self, Phase.leaving.injEq] at leaving
      subst leaving
      exact disciplined.finishes reachable taken guard last
    · simp only [Function.update_of_ne own] at leaving
      exact disciplined.rests reachable taken (Ne.symm own) (orderly.leaving other mutex' leaving)

/-- The mutex is given back. -/
theorem Orderly.unlock (orderly : Orderly locking Midway After locked) {thread : Thread}
    {mutex : Mutex} (leaving : locked.phase thread = .leaving mutex) :
    Orderly locking Midway After
      { locked with
        phase := Function.update locked.phase thread .outside
        holder := Function.update locked.holder mutex none } := by
  constructor
  · intro other mutex'
    have before := orderly.holds other mutex'
    by_cases own : other = thread
    · subst own
      rw [leaving] at before
      by_cases same : mutex' = mutex
      · simp [same]
      · simp [same, before, Ne.symm same]
    · by_cases same : mutex' = mutex
      · subst same
        have elsewhere : (locked.phase other).mutex? ≠ some mutex' := by
          intro holds
          exact own (orderly.unique holds (by rw [leaving]; rfl))
        simpa [own] using elsewhere
      · simpa [own, same] using before
  · intro other mutex'
    by_cases own : other = thread
    · simp [own]
    · simpa [own] using orderly.inside other mutex'
  · intro other mutex' midway
    have inside := orderly.midway other mutex' midway
    have own : other ≠ thread := by
      rintro rfl
      simp [leaving] at inside
    simpa [own] using inside
  · intro other mutex'
    by_cases own : other = thread
    · simp [own]
    · simpa [own] using orderly.leaving other mutex'

theorem Orderly.step (disciplined : Disciplined locking base Midway After)
    (orderly : Orderly locking Midway After locked) (reachable : base.Reachable locked.state)
    (moves : locking.Moves base locked action next) : Orderly locking Midway After next := by
  cases moves with
  | locks outside guarded free => exact orderly.lock outside guarded free
  | steps outside unguarded taken =>
      apply orderly.step_state disciplined reachable taken
      · simp [outside]
      · exact .inl unguarded
      · simp [unguarded]
  | continues inside goesOn taken =>
      have guard := orderly.inside _ _ inside
      apply orderly.step_state disciplined reachable taken
      · simp [inside]
      · exact .inr goesOn
      · intro other same
        rw [inside, Option.some.inj (guard.symm.trans same)]
  | finishes inside last taken => exact orderly.finish disciplined reachable inside last taken
  | unlocks leaving => exact orderly.unlock leaving

theorem orderly (disciplined : Disciplined locking base Midway After)
    (reachable : (locking.machine base).Reachable locked) :
    Orderly locking Midway After locked := by
  obtain ⟨start, actions, initial, run⟩ := reachable
  apply Machine.exec_induction
    (motive := fun _ locked => Orderly locking Midway After locked) _ _ run
  · exact .of_initial disciplined initial
  · intro actions locked action next reached orderly taken
    exact orderly.step disciplined (reachable_state ⟨start, actions, initial, reached⟩)
      (moves_of_step taken)

/-- A thread has come to a section under a mutex that another one holds. -/
def Waits (locking : Locking State Action Thread Mutex) (locked : Locked State Thread Mutex)
    (thread : Thread) (mutex : Mutex) : Prop :=
  locked.phase thread = .outside ∧ locking.guard locked.state thread = some mutex ∧
    locked.holder mutex ≠ none

/-- Some step of the thread can be taken. -/
def CanAct (locking : Locking State Action Thread Mutex) (base : Machine State Action)
    (locked : Locked State Thread Mutex) (thread : Thread) : Prop :=
  ∃ action, locking.actor action = thread ∧ Locking.step locking base locked action ≠ none

/-- A thread that holds a mutex can go on. -/
theorem Orderly.holder_acts (disciplined : Disciplined locking base Midway After)
    (orderly : Orderly locking Midway After locked) (reachable : base.Reachable locked.state)
    {thread : Thread} (phase : locked.phase thread ≠ .outside) :
    CanAct locking base locked thread := by
  cases at' : locked.phase thread with
  | outside => contradiction
  | inside mutex =>
      have guard := orderly.inside thread mutex at'
      have alone : ∀ other, other ≠ thread → ¬ Midway locked.state other mutex := by
        intro other different midway
        have inside := orderly.midway other mutex midway
        apply different
        exact orderly.unique (by rw [inside]; rfl) (by rw [at']; rfl)
      obtain ⟨action, own, goesOn⟩ := disciplined.goesOn reachable guard alone
      refine ⟨.step action, own, ?_⟩
      simpa [Locking.step, own, at'] using goesOn
  | leaving mutex =>
      exact ⟨.unlock thread, rfl, by simp [Locking.step, at']⟩

/-- Whoever waits, waits for another thread, and that one goes on. -/
theorem Orderly.waits_for (disciplined : Disciplined locking base Midway After)
    (orderly : Orderly locking Midway After locked) (reachable : base.Reachable locked.state)
    {thread : Thread} {mutex : Mutex} (waits : Waits locking locked thread mutex) :
    ∃ holder, holder ≠ thread ∧ locked.holder mutex = some holder ∧
      CanAct locking base locked holder := by
  obtain ⟨outside, -, taken⟩ := waits
  obtain ⟨holder, holds⟩ := Option.ne_none_iff_exists'.mp taken
  have phase := (orderly.holds holder mutex).mp holds
  have inside : locked.phase holder ≠ .outside := by
    intro outside
    simp [outside] at phase
  refine ⟨holder, ?_, holds, orderly.holder_acts disciplined reachable inside⟩
  rintro rfl
  exact inside outside

/-- Nothing but a mutex keeps a thread waiting that could go on without one. -/
theorem Orderly.acts_or_waits (disciplined : Disciplined locking base Midway After)
    (orderly : Orderly locking Midway After locked) (reachable : base.Reachable locked.state)
    {thread : Thread}
    (unguarded : locking.guard locked.state thread = none →
      ∃ action, locking.thread action = thread ∧ base.step locked.state action ≠ none) :
    CanAct locking base locked thread ∨ ∃ mutex, Waits locking locked thread mutex := by
  by_cases outside : locked.phase thread = .outside
  · cases guard : locking.guard locked.state thread with
    | none =>
        left
        obtain ⟨action, own, goesOn⟩ := unguarded guard
        refine ⟨.step action, own, ?_⟩
        simpa [Locking.step, own, outside, guard] using goesOn
    | some mutex =>
        cases free : locked.holder mutex with
        | none =>
            left
            exact ⟨.lock thread, rfl, by simp [Locking.step, outside, guard, free]⟩
        | some holder => exact .inr ⟨mutex, outside, guard, by simp [free]⟩
  · exact .inl (orderly.holder_acts disciplined reachable outside)

end Orderly

/-! ## Runs in which nobody waits -/

section Serial

variable {Midway After : State → Thread → Mutex → Prop}

/-- In the machine itself, nothing comes between the steps of a section that is made under the
same mutex. -/
structure Serial (locking : Locking State Action Thread Mutex) (base : Machine State Action)
    (Midway : State → Thread → Mutex → Prop) : Prop where
  entered : ∀ {state action next mutex}, base.step state action = some next →
    locking.guard state (locking.thread action) = some mutex →
    locking.last state action = false → Midway next (locking.thread action) mutex
  stays : ∀ {state action next thread mutex}, base.Reachable state →
    base.step state action = some next → locking.thread action ≠ thread →
    Midway state thread mutex → Midway next thread mutex
  excludes : ∀ {state action next other mutex}, base.step state action = some next →
    locking.guard state (locking.thread action) = some mutex →
    other ≠ locking.thread action → ¬ Midway state other mutex

/-- Only those are in a section that have begun it. -/
def Settled (Midway : State → Thread → Mutex → Prop) (locked : Locked State Thread Mutex) : Prop :=
  ∀ thread, locked.phase thread = .outside ∨
    ∃ mutex, locked.phase thread = .inside mutex ∧ Midway locked.state thread mutex

/-- A thread whose next step is in a section can enter it. -/
theorem Settled.enters (settled : Settled Midway locked)
    (orderly : Orderly locking Midway After locked) (serial : Serial locking base Midway)
    {action : Action} {next : State} {mutex : Mutex}
    (taken : base.step locked.state action = some next)
    (guarded : locking.guard locked.state (locking.thread action) = some mutex) :
    ∃ actions entered, (locking.machine base).exec locked actions = some entered ∧
      entered.state = locked.state ∧ entered.phase (locking.thread action) = .inside mutex ∧
      ∀ other, other ≠ locking.thread action → entered.phase other = locked.phase other := by
  rcases settled (locking.thread action) with outside | ⟨mutex', inside, midway⟩
  · have free : locked.holder mutex = none := by
      by_contra taken'
      obtain ⟨holder, holds⟩ := Option.ne_none_iff_exists'.mp taken'
      have phase := (orderly.holds holder mutex).mp holds
      rcases settled holder with outside' | ⟨mutex', inside, midway⟩
      · simp [outside'] at phase
      · rw [inside, Phase.mutex?_inside, Option.some.injEq] at phase
        subst phase
        have other : holder ≠ locking.thread action := by
          rintro rfl
          simp [outside] at inside
        exact serial.excludes taken guarded other midway
    refine ⟨[.lock (locking.thread action)], { locked with
      phase := Function.update locked.phase (locking.thread action) (.inside mutex)
      holder := Function.update locked.holder mutex (some (locking.thread action)) }, ?_, rfl,
      Function.update_self .., fun other different => Function.update_of_ne different ..⟩
    simp [machine, Locking.step, outside, guarded, free]
  · obtain rfl : mutex' = mutex := by
      have guard := orderly.inside _ mutex' inside
      exact Option.some.inj (guard.symm.trans guarded)
    exact ⟨[], locked, rfl, rfl, inside, fun _ _ => rfl⟩

/-- A step of the machine, with the mutexes. -/
theorem Settled.step (disciplined : Disciplined locking base Midway After)
    (serial : Serial locking base Midway) (settled : Settled Midway locked)
    (reachable : (locking.machine base).Reachable locked) {action : Action} {next : State}
    (taken : base.step locked.state action = some next) :
    ∃ actions locked', (locking.machine base).exec locked actions = some locked' ∧
      locked'.state = next ∧ Settled Midway locked' := by
  have orderly := Locking.orderly disciplined reachable
  have reached := reachable_state reachable
  have others : ∀ other, other ≠ locking.thread action → locked.phase other = .outside ∨
      ∃ mutex, locked.phase other = .inside mutex ∧ Midway next other mutex := by
    intro other different
    apply (settled other).imp_right
    rintro ⟨mutex, inside, midway⟩
    exact ⟨mutex, inside, serial.stays reached taken (Ne.symm different) midway⟩
  cases guarded : locking.guard locked.state (locking.thread action) with
  | none =>
      have outside : locked.phase (locking.thread action) = .outside := by
        apply (settled _).resolve_right
        rintro ⟨mutex, inside, -⟩
        have guard := orderly.inside _ mutex inside
        rw [guarded] at guard
        contradiction
      refine ⟨[.step action], { locked with state := next }, ?_, rfl, ?_⟩
      · simp [machine, Locking.step, outside, guarded, taken]
      · intro other
        by_cases own : other = locking.thread action
        · exact .inl (own ▸ outside)
        · exact others other own
  | some mutex =>
      obtain ⟨first, entered, enters, same, inside, kept⟩ :=
        settled.enters orderly serial taken guarded
      rw [← same] at taken
      cases last : locking.last entered.state action with
      | false =>
          refine ⟨first ++ [.step action], { entered with state := next }, ?_, rfl, ?_⟩
          · rw [Machine.exec_append, enters]
            simp [machine, Locking.step, inside, last, taken]
          · intro other
            by_cases own : other = locking.thread action
            · subst own
              have midway := serial.entered taken (same ▸ guarded) last
              exact .inr ⟨mutex, inside, midway⟩
            · simpa only [kept other own] using others other own
      | true =>
          refine ⟨first ++ [.step action, .unlock (locking.thread action)], { entered with
            state := next
            phase := Function.update entered.phase (locking.thread action) .outside
            holder := Function.update entered.holder mutex none }, ?_, rfl, ?_⟩
          · rw [Machine.exec_append, enters]
            simp [machine, Locking.step, inside, last, taken]
          · intro other
            by_cases own : other = locking.thread action
            · subst own
              exact .inl (Function.update_self ..)
            · simpa only [Function.update_of_ne own, kept other own] using others other own

/-- Every run of the machine is one with the mutexes. -/
theorem exists_exec (disciplined : Disciplined locking base Midway After)
    (serial : Serial locking base Midway) {start finish : State} {actions : List Action}
    (initial : base.init start) (run : base.exec start actions = some finish) :
    ∃ actions' locked, (locking.machine base).exec { state := start } actions' = some locked ∧
      locked.state = finish := by
  have simulated : ∃ actions' locked,
      (locking.machine base).exec { state := start } actions' = some locked ∧
        locked.state = finish ∧ (locking.machine base).Reachable locked ∧
          Settled Midway locked := by
    apply Machine.exec_simulates (fun state locked => locked.state = state ∧
      (locking.machine base).Reachable locked ∧ Settled Midway locked) _ _ run
    · rintro state locked action next ⟨rfl, reachable, settled⟩ taken
      obtain ⟨actions, locked', run, same, settled⟩ :=
        settled.step disciplined serial reachable taken
      exact ⟨actions, locked', run, same, reachable.exec run, settled⟩
    · exact ⟨rfl, ⟨_, [], ⟨start, initial, rfl⟩, rfl⟩, fun _ => .inl rfl⟩
  obtain ⟨actions', locked, run', same, -⟩ := simulated
  exact ⟨actions', locked, run', same⟩

end Serial

/-! ## Own steps -/

section OwnSteps

variable {Midway After : State → Thread → Mutex → Prop}
  {start finish : Locked State Thread Mutex} {actions : List (LockAction Action Thread)}

/-- One for a step of the thread. -/
def ownStep (locking : Locking State Action Thread Mutex) (thread : Thread)
    (_ : Locked State Thread Mutex) (action : LockAction Action Thread) : Nat :=
  if locking.actor action = thread then 1 else 0

/-- While it is `busy`, each step of a thread takes something off what it has left to do in its
phase, and no other step adds to that. -/
structure Lessens (locking : Locking State Action Thread Mutex) (base : Machine State Action)
    (Midway After : State → Thread → Mutex → Prop) (thread : Thread)
    (busy : Locked State Thread Mutex → Prop) (left : Phase Mutex → State → Nat) : Prop where
  locks : ∀ {locked mutex}, busy locked → Orderly locking Midway After locked →
    locked.phase thread = .outside → locking.guard locked.state thread = some mutex →
    left (.inside mutex) locked.state < left .outside locked.state
  steps : ∀ {locked action state}, busy locked → Orderly locking Midway After locked →
    base.Reachable locked.state → base.step locked.state action = some state →
    locking.thread action = thread → locked.phase thread = .outside →
    locking.guard locked.state thread = none → left .outside state < left .outside locked.state
  continues : ∀ {locked action state mutex}, busy locked → Orderly locking Midway After locked →
    base.Reachable locked.state → base.step locked.state action = some state →
    locking.thread action = thread → locked.phase thread = .inside mutex →
    locking.last locked.state action = false →
    left (.inside mutex) state < left (.inside mutex) locked.state
  finishes : ∀ {locked action state mutex}, busy locked → Orderly locking Midway After locked →
    base.Reachable locked.state → base.step locked.state action = some state →
    locking.thread action = thread → locked.phase thread = .inside mutex →
    locking.last locked.state action = true →
    left (.leaving mutex) state < left (.inside mutex) locked.state
  unlocks : ∀ state mutex, left .outside state < left (.leaving mutex) state
  others : ∀ {locked action state}, busy locked → Orderly locking Midway After locked →
    base.Reachable locked.state → base.step locked.state action = some state →
    locking.thread action ≠ thread →
    left (locked.phase thread) state ≤ left (locked.phase thread) locked.state

/-- While it is busy, a thread makes no more steps than it has left to do. -/
theorem ownSteps_le (disciplined : Disciplined locking base Midway After) {thread : Thread}
    {busy : Locked State Thread Mutex → Prop} {left : Phase Mutex → State → Nat}
    (lessens : Lessens locking base Midway After thread busy left)
    (reachable : (locking.machine base).Reachable start)
    (working : (locking.machine base).Along (fun locked _ => busy locked) start actions)
    (run : (locking.machine base).exec start actions = some finish) :
    (locking.machine base).total (locking.ownStep thread) start actions ≤
      left (start.phase thread) start.state := by
  apply Machine.total_le_of_remaining (locking.machine base).Reachable _ _
    (fun locked => left (locked.phase thread) locked.state)
    (fun _ _ _ reachable _ taken => reachable.step taken) _ reachable working run
  intro locked action next reachable works taken
  have orderly := Locking.orderly disciplined reachable
  have reachable := reachable_state reachable
  replace taken := moves_of_step taken
  cases taken with
  | @locks other mutex outside guarded free =>
      by_cases same : other = thread
      · subst same
        have fewer := lessens.locks works orderly outside guarded
        simp only [ownStep, actor, Function.update_self, outside, if_true]
        omega
      · simp [ownStep, actor, same, Ne.symm same]
  | @steps action state outside unguarded taken =>
      by_cases same : locking.thread action = thread
      · subst same
        have fewer := lessens.steps works orderly reachable taken rfl outside unguarded
        simp only [ownStep, actor, outside, if_true]
        omega
      · simpa [ownStep, actor, same] using lessens.others works orderly reachable taken same
  | @continues action state mutex inside goesOn taken =>
      by_cases same : locking.thread action = thread
      · subst same
        have fewer := lessens.continues works orderly reachable taken rfl inside goesOn
        simp only [ownStep, actor, inside, if_true]
        omega
      · simpa [ownStep, actor, same] using lessens.others works orderly reachable taken same
  | @finishes action state mutex inside last taken =>
      by_cases same : locking.thread action = thread
      · subst same
        have fewer := lessens.finishes works orderly reachable taken rfl inside last
        simp only [ownStep, actor, Function.update_self, inside, if_true]
        omega
      · simpa [ownStep, actor, same, Ne.symm same] using
          lessens.others works orderly reachable taken same
  | @unlocks other mutex leaving =>
      by_cases same : other = thread
      · subst same
        have fewer := lessens.unlocks locked.state mutex
        simp only [ownStep, actor, Function.update_self, leaving, if_true]
        omega
      · simp [ownStep, actor, same, Ne.symm same]

/-- Own steps until a mutex is given back, when `remaining` bounds those of the section. -/
def untilUnlock (remaining : State → Nat) : Phase Mutex → State → Nat
  | .outside, _ => 0
  | .inside _, state => remaining state + 1
  | .leaving _, _ => 1

/-- A thread that holds a mutex gives it back after a bounded number of own steps. -/
theorem held_le (disciplined : Disciplined locking base Midway After) {thread : Thread}
    {mutex : Mutex} (remaining : State → Nat)
    (own : ∀ {state action next}, base.Reachable state → base.step state action = some next →
      locking.thread action = thread → locking.guard state thread = some mutex →
      (if locking.last state action then 0 else remaining next) < remaining state)
    (others : ∀ {state action next}, base.Reachable state → base.step state action = some next →
      locking.thread action ≠ thread → locking.guard state thread = some mutex →
      remaining next ≤ remaining state)
    (reachable : (locking.machine base).Reachable start)
    (held : (locking.machine base).Along (fun locked _ => locked.holder mutex = some thread) start
      actions)
    (run : (locking.machine base).exec start actions = some finish) :
    (locking.machine base).total (locking.ownStep thread) start actions ≤
      untilUnlock remaining (start.phase thread) start.state := by
  apply ownSteps_le disciplined _ reachable held run
  -- Who holds the mutex is in its section, or at the end of it.
  have guarded : ∀ {locked : Locked State Thread Mutex} {mutex' : Mutex},
      locked.holder mutex = some thread → Orderly locking Midway After locked →
      locked.phase thread = .inside mutex' → locking.guard locked.state thread = some mutex := by
    intro locked mutex' holds orderly inside
    have phase := (orderly.holds thread mutex).mp holds
    rw [inside, Phase.mutex?_inside, Option.some.injEq] at phase
    subst phase
    exact orderly.inside thread mutex' inside
  have notOutside : ∀ {locked : Locked State Thread Mutex}, locked.holder mutex = some thread →
      Orderly locking Midway After locked → locked.phase thread ≠ .outside := by
    intro locked holds orderly outside
    have phase := (orderly.holds thread mutex).mp holds
    simp [outside] at phase
  constructor
  case locks => exact fun holds orderly outside _ => absurd outside (notOutside holds orderly)
  case steps =>
    exact fun holds orderly _ _ _ outside _ => absurd outside (notOutside holds orderly)
  case continues =>
    intro locked action state mutex' holds orderly reachable taken same inside goesOn
    have fewer := own reachable taken same (guarded holds orderly inside)
    rw [goesOn, if_neg Bool.false_ne_true] at fewer
    exact Nat.succ_lt_succ fewer
  case finishes =>
    intro locked action state mutex' holds orderly reachable taken same inside last
    have fewer := own reachable taken same (guarded holds orderly inside)
    rw [last, if_pos rfl] at fewer
    exact Nat.succ_lt_succ fewer
  case unlocks => exact fun _ _ => Nat.one_pos
  case others =>
    intro locked action state holds orderly reachable taken different
    cases phase : locked.phase thread with
    | outside => exact absurd phase (notOutside holds orderly)
    | inside mutex' =>
        have kept := others reachable taken different (guarded holds orderly phase)
        exact Nat.succ_le_succ kept
    | leaving mutex' => exact Nat.le_refl 1

/-- Own steps until some work is done, when `left` bounds those of the work, three for the
last step of a section: with the mutex it takes and gives back. -/
def untilDone (left : State → Nat) : Phase Mutex → State → Nat
  | .outside, state => left state
  | .inside _, state => left state - 1
  | .leaving _, state => left state + 1

/-- A thread at work is done after a bounded number of own steps. -/
theorem busy_le (disciplined : Disciplined locking base Midway After) {thread : Thread}
    (busy : State → Prop) (left : State → Nat)
    (guarded : ∀ {state mutex}, locking.guard state thread = some mutex →
      busy state ∧ 1 ≤ left state)
    (own : ∀ {state action next}, base.Reachable state → base.step state action = some next →
      locking.thread action = thread → busy state →
      left next + (if locking.guard state thread ≠ none ∧ locking.last state action then 3 else 1) ≤
        left state)
    (others : ∀ {state action next}, base.Reachable state → base.step state action = some next →
      locking.thread action ≠ thread → left next ≤ left state)
    (reachable : (locking.machine base).Reachable start)
    (working : (locking.machine base).Along (fun locked _ =>
      locked.phase thread ≠ .outside ∨ busy locked.state) start actions)
    (run : (locking.machine base).exec start actions = some finish) :
    (locking.machine base).total (locking.ownStep thread) start actions ≤
      untilDone left (start.phase thread) start.state := by
  apply ownSteps_le disciplined _ reachable working run
  constructor
  case locks =>
    intro locked mutex _ _ _ guard
    exact Nat.sub_one_lt_of_le (guarded guard).2 (Nat.le_refl _)
  case steps =>
    intro locked action state works _ reachable taken same outside unguarded
    have fewer := own reachable taken same (works.resolve_left (by simp [outside]))
    rwa [unguarded, if_neg (by simp)] at fewer
  case continues =>
    intro locked action state mutex _ orderly reachable taken same inside goesOn
    have guard := orderly.inside _ mutex inside
    have fewer := own reachable taken same (guarded guard).1
    subst same
    have positive := (guarded (disciplined.continues reachable taken guard goesOn)).2
    rw [goesOn, if_neg (by simp)] at fewer
    simp only [untilDone]
    omega
  case finishes =>
    intro locked action state mutex _ orderly reachable taken same inside last
    have guard := orderly.inside _ mutex inside
    have fewer := own reachable taken same (guarded guard).1
    rw [last, guard, if_pos (by simp)] at fewer
    simp only [untilDone]
    omega
  case unlocks => exact fun state _ => Nat.lt_succ_self (left state)
  case others =>
    intro locked action state _ _ reachable taken different
    have kept := others reachable taken different
    cases locked.phase thread with
    | outside => exact kept
    | inside mutex => exact Nat.sub_le_sub_right kept 1
    | leaving mutex => exact Nat.succ_le_succ kept

end OwnSteps

end Locking

end Library
