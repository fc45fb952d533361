import EspNmeaBridge.Library.Machine

/-!
# Scripts of calls

Sequential code as the calls it makes: a tree with one branch for every answer that the
called code may give.  Nothing is assumed of the answers, so what is proved of a script
holds in every environment.

A transition relation on an abstract state says which calls may be made and what they
mean.  A script conforms to it when it never makes a call that the relation has no
transition for.  The rules below show it statement by statement; it holds of what is left of
the script after each call, and so along every run.
-/

namespace Library

/-- Code that makes calls and ends with a result. -/
inductive Script {Request : Type} (Answer : Request → Type) (Result : Type) where
  | done (result : Result)
  | call (request : Request) (next : Answer request → Script Answer Result)

/-- A call that has been made and answered. -/
structure Answered {Request : Type} (Answer : Request → Type) where
  request : Request
  answer : Answer request

namespace Script

variable {Request : Type} {Answer : Request → Type} {Result Result' : Type}

/-- Make one call and return its answer. -/
def perform (request : Request) : Script Answer (Answer request) := .call request .done

/-- Run a script, then the one that its result selects. -/
def andThen : Script Answer Result → (Result → Script Answer Result') → Script Answer Result'
  | .done result, next => next result
  | .call request rest, next => .call request fun answer => (rest answer).andThen next

instance monad : Monad (Script Answer) where
  pure := done
  bind := andThen

@[simp] theorem pure_eq (result : Result) : (pure result : Script Answer Result) = .done result :=
  rfl

@[simp] theorem done_bind (result : Result) (next : Result → Script Answer Result') :
    Script.done result >>= next = next result := rfl

@[simp] theorem call_bind (request : Request) (rest : Answer request → Script Answer Result)
    (next : Result → Script Answer Result') :
    Script.call request rest >>= next = .call request fun answer => rest answer >>= next := rfl

@[simp] theorem perform_bind (request : Request)
    (next : Answer request → Script Answer Result) :
    perform request >>= next = .call request next := rfl

/-- A script that makes calls of some kind only. -/
def Makes (kind : Request → Prop) : Script Answer Result → Prop
  | .done _ => True
  | .call request next => kind request ∧ ∀ answer, (next answer).Makes kind

section Makes

variable {kind : Request → Prop}

@[simp] theorem makes_done (result : Result) :
    (Script.done result : Script Answer Result).Makes kind := trivial

@[simp] theorem makes_call {request : Request} {next : Answer request → Script Answer Result} :
    (Script.call request next).Makes kind ↔ kind request ∧ ∀ answer, (next answer).Makes kind :=
  Iff.rfl

theorem Makes.bind {script : Script Answer Result} {next : Result → Script Answer Result'}
    (first : script.Makes kind) (second : ∀ result, (next result).Makes kind) :
    (script >>= next).Makes kind := by
  induction script with
  | done result => exact second result
  | call request rest ih => exact ⟨first.1, fun answer => ih answer (first.2 answer)⟩

end Makes

section Runs

variable [DecidableEq Request]

/-- The script after its next call has been answered. -/
def step : Script Answer Result → Answered Answer → Option (Script Answer Result)
  | .done _, _ => none
  | .call request next, made =>
      if same : made.request = request then some (next (same ▸ made.answer)) else none

/-- Scripts as a machine whose actions are the answered calls. -/
def machine : Machine (Script Answer Result) (Answered Answer) where
  init _ := True
  step := step

theorem step_eq_some {script rest : Script Answer Result} {made : Answered Answer} :
    script.step made = some rest ↔
      ∃ next, script = .call made.request next ∧ next made.answer = rest := by
  cases script with
  | done result => simp [step]
  | call request next =>
      obtain ⟨request', answer⟩ := made
      constructor
      · intro taken
        simp only [step] at taken
        split at taken
        · rename_i same
          subst same
          exact ⟨next, rfl, Option.some.inj taken⟩
        · contradiction
      · intro shape
        obtain ⟨next', same, rfl⟩ := shape
        cases same
        simp [step]

end Runs

section Conformance

variable {State : Type} (transition : State → Answered Answer → State → Prop)

/-- Whatever is answered, each call the script makes is a transition, and it ends as `post`
says. -/
def Conforms (post : Result → State → Prop) : Script Answer Result → State → Prop
  | .done result, state => post result state
  | .call request next, state =>
      ∀ answer, ∃ state', transition state ⟨request, answer⟩ state' ∧
        (next answer).Conforms post state'

variable {transition} {post post' : Result → State → Prop}

@[simp] theorem conforms_done {result : Result} {state : State} :
    (Script.done result : Script Answer Result).Conforms transition post state ↔
      post result state := Iff.rfl

@[simp] theorem conforms_call {request : Request} {next : Answer request → Script Answer Result}
    {state : State} :
    (Script.call request next).Conforms transition post state ↔
      ∀ answer, ∃ state', transition state ⟨request, answer⟩ state' ∧
        (next answer).Conforms transition post state' := Iff.rfl

/-- The rule of consequence. -/
theorem Conforms.mono {script : Script Answer Result} {state : State}
    (conforms : script.Conforms transition post state)
    (weaker : ∀ result state, post result state → post' result state) :
    script.Conforms transition post' state := by
  induction script generalizing state with
  | done result => exact weaker result state conforms
  | call request next ih =>
      intro answer
      obtain ⟨state', moves, rest⟩ := conforms answer
      exact ⟨state', moves, ih answer rest⟩

/-- The rule of sequencing. -/
theorem Conforms.bind {script : Script Answer Result} {next : Result → Script Answer Result'}
    {post' : Result' → State → Prop} {state : State}
    (first : script.Conforms transition post state)
    (second : ∀ result state, post result state → (next result).Conforms transition post' state) :
    (script >>= next).Conforms transition post' state := by
  induction script generalizing state with
  | done result => exact second result state first
  | call request rest ih =>
      intro answer
      obtain ⟨state', moves, later⟩ := first answer
      exact ⟨state', moves, ih answer later⟩

/-- One call. -/
theorem Conforms.perform {request : Request} {state : State}
    {post : Answer request → State → Prop}
    (moves : ∀ answer, ∃ state', transition state ⟨request, answer⟩ state' ∧ post answer state') :
    (Script.perform request).Conforms transition post state := moves

/-- Calls that leave the state as it is are made without harm. -/
theorem Conforms.of_makes {kind : Request → Prop} {script : Script Answer Result} {state : State}
    (makes : script.Makes kind)
    (stays : ∀ made : Answered Answer, kind made.request → transition state made state) :
    script.Conforms transition (fun _ state' => state' = state) state := by
  induction script with
  | done result => rfl
  | call request next ih =>
      intro answer
      exact ⟨state, stays ⟨request, answer⟩ makes.1, ih answer (makes.2 answer)⟩

end Conformance

/-- A protocol on calls: which are allowed in a state, and what an answered one makes of it. -/
structure Protocol (State : Type) {Request : Type} (Answer : Request → Type) where
  allowed : State → Request → Prop
  advance : State → Answered Answer → State

namespace Protocol

variable {State : Type} (protocol : Protocol State Answer)

/-- The transitions of a protocol. -/
def transition (state : State) (made : Answered Answer) (next : State) : Prop :=
  protocol.allowed state made.request ∧ next = protocol.advance state made

/-- The state after a number of answered calls. -/
def after (start : State) (calls : List (Answered Answer)) : State :=
  calls.foldl protocol.advance start

/-- Each call is allowed in the state that the calls before it have led to. -/
def Obeyed (start : State) (calls : List (Answered Answer)) : Prop :=
  ∀ earlier made, earlier ++ [made] <+: calls →
    protocol.allowed (protocol.after start earlier) made.request

variable {protocol} {start finish : State} {calls : List (Answered Answer)}

theorem obeyed_nil : protocol.Obeyed start [] := by
  intro earlier made within
  simp at within

theorem obeyed_cons {made : Answered Answer} :
    protocol.Obeyed start (made :: calls) ↔
      protocol.allowed start made.request ∧
        protocol.Obeyed (protocol.advance start made) calls := by
  constructor
  · intro obeyed
    constructor
    · exact obeyed [] made (by simp)
    · intro earlier later within
      exact obeyed (made :: earlier) later (by simpa using within)
  · intro both earlier later within
    cases earlier with
    | nil =>
        obtain rfl : later = made := by simpa using within
        exact both.1
    | cons first earlier =>
        simp only [List.cons_append, List.cons_prefix_cons] at within
        obtain ⟨rfl, within⟩ := within
        exact both.2 earlier later within

theorem after_concat (made : Answered Answer) :
    protocol.after start (calls ++ [made]) =
      protocol.advance (protocol.after start calls) made := by
  simp [after]

theorem obeyed_concat {made : Answered Answer} :
    protocol.Obeyed start (calls ++ [made]) ↔
      protocol.Obeyed start calls ∧ protocol.allowed (protocol.after start calls) made.request := by
  induction calls generalizing start with
  | nil => simp [obeyed_cons, obeyed_nil, after]
  | cons first calls ih => simp [obeyed_cons, ih, after, and_assoc]

variable {post : Result → State → Prop}

/-- To make a call it has to be allowed. -/
theorem conforms_call {request : Request} {next : Answer request → Script Answer Result}
    (allowed : protocol.allowed start request)
    (rest : ∀ answer, (next answer).Conforms protocol.transition post
      (protocol.advance start ⟨request, answer⟩)) :
    (Script.call request next).Conforms protocol.transition post start :=
  fun answer => ⟨_, ⟨allowed, rfl⟩, rest answer⟩

end Protocol

end Script

end Library
