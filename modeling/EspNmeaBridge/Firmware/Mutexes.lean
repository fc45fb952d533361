import EspNmeaBridge.Firmware.Stream
import EspNmeaBridge.Library.Mutex
import EspNmeaBridge.Pipeline.StepsLeft
import EspNmeaBridge.TcpNmeaServer.SlotReuse

/-!
# The mutexes of the firmware

In the machine of the threads a section under a mutex is one step, or, in the dispatcher,
what the sessions are kept out of.  Here each thread takes the mutex, makes its section and
gives the mutex back, and anything may happen in between.  Nobody else moves a thread that is
at a section, and a section that has been entered can be gone on with, so the rules for
sections under mutexes apply (`disciplined`); and the runs are the same ones (`serial`).
-/

namespace EspNmeaBridge

open Library

/-- The mutexes that more than one thread takes. -/
inductive FirmwareMutex where
  | sinksLock
  | clientsLock
  | statusLedLock
  deriving DecidableEq, Repr

/-- Threads that read under a mutex: `status_led_render`, and each caller of
`tcp_nmea_server_get_stats`. -/
inductive Reader where
  | statusLedRender
  | serverStats (caller : Nat)
  deriving DecidableEq, Repr

def Reader.mutex : Reader → FirmwareMutex
  | .statusLedRender => .statusLedLock
  | .serverStats _ => .clientsLock

inductive FirmwareThread (config : Config) where
  | uart
  | dispatcher
  | server
  | client (i : Fin config.tcpNmeaServerMaxClients)
  | outbound
  | reader (reader : Reader)
  deriving DecidableEq, Repr

/-- The mutex of the functions of `status_led.h`. -/
def statusLedMutex? (config : Config) : Option FirmwareMutex :=
  if config.statusLedEnable then some .statusLedLock else none

/-- The mutex a session makes its next step under. -/
def SessionPc.mutex? {config : Config} : SessionPc config → Option FirmwareMutex
  | .sinkOpen | .takeCheck | .sinkClose => some .sinksLock
  | .ledStarted | .ledSendFailed | .ledForwarded | .ledEnded => statusLedMutex? config
  | .closeUnopened | .incActive | .drain | .takeGet _ | .takeCount .. | .send .. | .drainAfter
  | .decActive | .closeFd | .returned => none

namespace Firmware

variable {config : Config}

/-- The threads together with those that only read. -/
def withReaders (config : Config) : Machine (Firmware config) (FirmwareAction config ⊕ Reader) where
  init := Initial
  step firmware
    | .inl action => firmware.step action
    | .inr _ => some firmware

/-- Whose step it is. -/
def threadOf : FirmwareAction config ⊕ Reader → FirmwareThread config
  | .inl (.uart ..) => .uart
  | .inl .dispatcher => .dispatcher
  | .inl (.server _) => .server
  | .inl (.client i _) => .client i
  | .inl (.outbound _) => .outbound
  | .inr reader => .reader reader

/-- The mutex a thread makes its next step under. -/
def mutex? (firmware : Firmware config) : FirmwareThread config → Option FirmwareMutex
  | .uart =>
      match firmware.pipeline.uartPc with
      | .ledReceived => statusLedMutex? config
      | .poll | .publish _ | .put .. => none
  | .dispatcher =>
      match firmware.pipeline.dispatcher with
      | .waiting => none
      | .locking _ | .scanning .. | .putting .. | .accounting .. => some .sinksLock
  | .server =>
      match firmware.server with
      | .allocClient _ => some .clientsLock
      | .stopped | .socket | .bind | .listen | .closeListener | .accept | .reject _ | .setFd ..
      | .createThread _ => none
  | .client i =>
      match (firmware.clients i).thread with
      | some .session => (firmware.pipeline.sessions (some i)).pc.mutex?
      | some .clearActive => some .clientsLock
      | some .enter | some .clearFd | some .closeFd | some .logging | none => none
  | .outbound =>
      match firmware.outbound.pc with
      | .ledConnecting | .ledConnected _ | .ledDisconnected => statusLedMutex? config
      | .session => (firmware.pipeline.sessions none).pc.mutex?
      | .stopped | .waitHost | .socket | .connect _ | .closeFailed _ | .setNonblock _
      | .retryBackoff => none
  | .reader reader => some reader.mutex

/-- Only the section of the dispatcher has more than one step. -/
def lastOfSection (firmware : Firmware config) : FirmwareAction config ⊕ Reader → Bool
  | .inl .dispatcher =>
      match firmware.pipeline.dispatcher with
      | .scanning _ [] _ => true
      | .waiting | .locking _ | .scanning _ (_ :: _) _ | .putting .. | .accounting .. => false
  | .inl (.uart ..) | .inl (.server _) | .inl (.client ..) | .inl (.outbound _) | .inr _ => true

def locking (config : Config) :
    Locking (Firmware config) (FirmwareAction config ⊕ Reader) (FirmwareThread config)
      FirmwareMutex where
  thread := threadOf
  guard := mutex?
  last := lastOfSection

/-- The dispatcher hands a frame out. -/
def Midway (firmware : Firmware config) (thread : FirmwareThread config)
    (mutex : FirmwareMutex) : Prop :=
  thread = .dispatcher ∧ mutex = .sinksLock ∧ firmware.pipeline.dispatcher.locked = true

/-- Where a thread is when it gives a mutex back. -/
def AfterSection (firmware : Firmware config) (mutex : FirmwareMutex) :
    FirmwareThread config → Prop
  | .uart => firmware.pipeline.uartPc = .poll
  | .dispatcher => firmware.pipeline.dispatcher = .waiting
  | .client i =>
      (firmware.clients i).thread ≠ none ∧
        ((firmware.clients i).thread = some .logging → mutex = .clientsLock)
  | .server | .outbound | .reader _ => True

variable {firmware next : Firmware config} {action : FirmwareAction config ⊕ Reader}
  {thread : FirmwareThread config} {mutex : FirmwareMutex}

/-- The thread has not been moved. -/
def SamePlace (firmware next : Firmware config) : FirmwareThread config → Prop
  | .uart => next.pipeline.uartPc = firmware.pipeline.uartPc
  | .dispatcher => next.pipeline.dispatcher = firmware.pipeline.dispatcher
  | .server => next.server = firmware.server
  | .client i =>
      (next.clients i).thread = (firmware.clients i).thread ∧
        next.pipeline.sessions (some i) = firmware.pipeline.sessions (some i)
  | .outbound =>
      next.outbound = firmware.outbound ∧
        next.pipeline.sessions none = firmware.pipeline.sessions none
  | .reader _ => True

/-- A step of an owner, seen by the other threads of the pipeline. -/
structure KeepsOthers (owner : Owner config) (pipeline next : Pipeline config (Owner config)) :
    Prop where
  uartPc : next.uartPc = pipeline.uartPc
  dispatcher : next.dispatcher = pipeline.dispatcher
  sessions : ∀ other, other ≠ owner → next.sessions other = pipeline.sessions other

theorem keepsOthers_stepSession {owner : Owner config} {sys : SysReturn}
    {pipeline next : Pipeline config (Owner config)}
    (taken : pipeline.stepSession owner sys = some next) : KeepsOthers owner pipeline next := by
  obtain ⟨shared, session, -, rfl⟩ := Pipeline.stepSession_cases taken
  exact ⟨rfl, rfl, fun _ different => Function.update_of_ne different _ _⟩

theorem keepsOthers_startSession {owner : Owner config} (fd : Int) (sinkName : String)
    (sink : NmeaBridgeSink) (pipeline : Pipeline config (Owner config)) :
    KeepsOthers owner pipeline (pipeline.startSession owner fd sinkName sink) :=
  ⟨rfl, rfl, fun _ different => Function.update_of_ne different _ _⟩

theorem samePlace_stepUart (ch : Byte) (sys : SysReturn) (other : thread ≠ .uart) :
    SamePlace firmware { firmware with pipeline := firmware.pipeline.stepUart ch sys } thread := by
  obtain ⟨sessions, dispatcher, -⟩ := firmware.pipeline.stepUart_others ch sys
  cases thread with
  | uart => exact absurd rfl other
  | dispatcher => exact dispatcher
  | server | reader reader => trivial
  | client i => exact ⟨rfl, by rw [sessions]⟩
  | outbound => exact ⟨rfl, by rw [sessions]⟩

theorem samePlace_dispatcher (taken : firmware.step .dispatcher = some next)
    (other : thread ≠ .dispatcher) : SamePlace firmware next thread := by
  obtain ⟨pipeline, moved, rfl⟩ := step_dispatcher taken
  obtain ⟨bridge, dispatcher, -, rfl⟩ := Pipeline.step_dispatcher_cases moved
  cases thread with
  | dispatcher => exact absurd rfl other
  | uart | server | reader reader => trivial
  | client i | outbound => exact ⟨rfl, rfl⟩

/-- The server thread moves no other thread, except that it starts one. -/
theorem samePlace_stepServer {sys : SysReturn} (taken : firmware.stepServer sys = some next)
    (other : thread ≠ .server) :
    SamePlace firmware next thread ∨
      ∃ i, thread = .client i ∧ firmware.server = .createThread i ∧
        (next.clients i).thread = some .enter := by
  obtain ⟨pipeline, outbound, -⟩ := stepServer_others taken
  cases thread with
  | server => contradiction
  | uart => exact .inl (congrArg Pipeline.uartPc pipeline)
  | dispatcher => exact .inl (congrArg Pipeline.dispatcher pipeline)
  | reader reader => exact .inl trivial
  | outbound => exact .inl ⟨outbound, by rw [pipeline]⟩
  | client i =>
      have sessions : next.pipeline.sessions (some i) = firmware.pipeline.sessions (some i) := by
        rw [pipeline]
      cases stepServer_moves taken with
      | socket | bind | listen | closeListener | acceptFails | accepts | full | reject =>
          exact .inl ⟨rfl, sessions⟩
      | @allocates fd j server inactive | @setFd fd j server =>
          left
          refine ⟨?_, sessions⟩
          by_cases same : i = j
          · subst same
            simp [setClient]
          · simp [setClient, same]
      | @createThread j server =>
          by_cases same : i = j
          · subst same
            exact .inr ⟨i, rfl, server, by simp [setClient]⟩
          · exact .inl ⟨by simp [setClient, same], sessions⟩

theorem samePlace_stepClient {i : Fin config.tcpNmeaServerMaxClients} {sys : SysReturn}
    (taken : firmware.stepClient i sys = some next) (other : thread ≠ .client i) :
    SamePlace firmware next thread := by
  obtain ⟨client, pipeline, moves, rfl⟩ := stepClient_moves taken
  have keeps : KeepsOthers (some i) firmware.pipeline pipeline := by
    cases moves with
    | enter thread => exact keepsOthers_startSession _ _ _ _
    | session thread moved => exact keepsOthers_stepSession moved
    | returned | clearFd | closeFd | clearActive | logging => exact ⟨rfl, rfl, fun _ _ => rfl⟩
  cases thread with
  | uart => exact keeps.uartPc
  | dispatcher => exact keeps.dispatcher
  | server | reader reader => trivial
  | client j =>
      have different : j ≠ i := fun same => other (by rw [same])
      refine ⟨?_, keeps.sessions _ (by simpa using different)⟩
      simp [setClient, different]
  | outbound => exact ⟨rfl, keeps.sessions _ (by simp)⟩

theorem samePlace_stepOutbound {sys : SysReturn} (taken : firmware.stepOutbound sys = some next)
    (other : thread ≠ .outbound) : SamePlace firmware next thread := by
  obtain ⟨outbound, pipeline, nextFd, moves, rfl⟩ := stepOutbound_moves taken
  have keeps : KeepsOthers none firmware.pipeline pipeline := by
    cases moves with
    | waits | returned => exact ⟨rfl, rfl, fun _ _ => rfl⟩
    | enter pc bridge =>
        exact ⟨rfl, rfl, fun other different => Function.update_of_ne different _ _⟩
    | session pc moved => exact keepsOthers_stepSession moved
  cases thread with
  | outbound => contradiction
  | uart => exact keeps.uartPc
  | dispatcher => exact keeps.dispatcher
  | server | reader reader => trivial
  | client i => exact ⟨rfl, keeps.sessions _ (by simp)⟩

/-- A step moves no other thread, except that the server thread starts one. -/
theorem step_samePlace (taken : (withReaders config).step firmware action = some next)
    (other : threadOf action ≠ thread) :
    SamePlace firmware next thread ∨
      ∃ i, thread = .client i ∧ firmware.server = .createThread i ∧
        (next.clients i).thread = some .enter := by
  have other := other.symm
  match action, taken with
  | .inl (.uart ch sys), taken =>
      cases taken
      exact .inl (samePlace_stepUart ch sys other)
  | .inl .dispatcher, taken => exact .inl (samePlace_dispatcher taken other)
  | .inl (.server sys), taken => exact samePlace_stepServer taken other
  | .inl (.client i sys), taken => exact .inl (samePlace_stepClient taken other)
  | .inl (.outbound sys), taken => exact .inl (samePlace_stepOutbound taken other)
  | .inr reader, taken =>
      cases taken
      left
      cases thread <;> trivial

/-- Only the thread of a slot is started by another one. -/
theorem step_samePlace_of_noClient (taken : (withReaders config).step firmware action = some next)
    (other : threadOf action ≠ thread) (noClient : ∀ i, thread ≠ .client i) :
    SamePlace firmware next thread := by
  apply (step_samePlace taken other).resolve_right
  rintro ⟨i, same, -⟩
  exact noClient i same

/-- A thread that has not been moved makes its next step under the same mutex. -/
theorem SamePlace.mutex? (same : SamePlace firmware next thread) :
    next.mutex? thread = firmware.mutex? thread := by
  cases thread with
  | uart | dispatcher | server =>
      simp only [SamePlace] at same
      simp only [Firmware.mutex?, same]
  | client i | outbound =>
      obtain ⟨place, session⟩ := same
      simp only [Firmware.mutex?, place, session]
  | reader reader => rfl

theorem exec_withReaders {start : Firmware config}
    {actions : List (FirmwareAction config ⊕ Reader)}
    (run : (withReaders config).exec start actions = some firmware) :
    ∃ actions', (machine config).exec start actions' = some firmware := by
  apply Machine.exec_view id (fun _ _ => True) _
    (Machine.along_of_forall (fun _ _ => trivial) start actions) run
  intro firmware action next _ taken
  cases action with
  | inl action => exact .inr ⟨action, taken⟩
  | inr reader => exact .inl (Option.some.inj taken).symm

theorem reachable_withReaders (reachable : (withReaders config).Reachable firmware) :
    (machine config).Reachable firmware := by
  obtain ⟨start, actions, initial, run⟩ := reachable
  obtain ⟨actions', run'⟩ := exec_withReaders run
  exact ⟨start, actions', initial, run'⟩

theorem kept (reachable : (machine config).Reachable firmware) : firmware.Kept :=
  reachable.invariant Kept (fun _ => Kept.of_initial) fun _ _ _ kept taken => kept.step taken

theorem mutex?_of_idle {i : Fin config.tcpNmeaServerMaxClients}
    (idle : (firmware.clients i).thread = none ∨ (firmware.clients i).thread = some .logging) :
    firmware.mutex? (.client i) = none := by
  rcases idle with returned | logging <;> simp [Firmware.mutex?, *]

/-- Nobody else moves a thread that is at a section. -/
theorem mutex?_stays (reachable : (withReaders config).Reachable firmware)
    (taken : (withReaders config).step firmware action = some next)
    (other : threadOf action ≠ thread) (guarded : firmware.mutex? thread = some mutex) :
    next.mutex? thread = some mutex := by
  cases step_samePlace taken other with
  | inl same => rw [same.mutex?, guarded]
  | inr starts =>
      obtain ⟨i, rfl, server, -⟩ := starts
      -- The slot that is handed out has no thread before its end.
      have idle := ((kept (reachable_withReaders reachable)).reserved i (.inr server)).2
      rw [mutex?_of_idle idle] at guarded
      contradiction

theorem mutex?_dispatcher : firmware.mutex? .dispatcher =
    if firmware.pipeline.dispatcher = .waiting then none else some .sinksLock := by
  cases pc : firmware.pipeline.dispatcher <;> simp [Firmware.mutex?, pc]

/-- In its pass, the dispatcher stays in its section up to the last step. -/
theorem dispatcher_section (taken : firmware.step .dispatcher = some next)
    (busy : firmware.pipeline.dispatcher ≠ .waiting) :
    next.pipeline.dispatcher = .waiting ↔ firmware.lastOfSection (.inl .dispatcher) = true := by
  obtain ⟨pipeline, stepped, rfl⟩ := step_dispatcher taken
  obtain ⟨bridge, dispatcher, moved, rfl⟩ := Pipeline.step_dispatcher_cases stepped
  have step := NmeaBridge.stepDispatcher_cases moved
  generalize pc : firmware.pipeline.dispatcher = before at step busy
  cases step with
  | takes => contradiction
  | locks | endsUnsent | ends | skips | calls | operates | returns | accounts =>
      simp [lastOfSection, pc]

/-- The dispatcher hands a frame out after every step of its section but the last. -/
theorem locked_iff (taken : firmware.step .dispatcher = some next) :
    next.pipeline.dispatcher.locked = true ↔
      firmware.pipeline.dispatcher ≠ .waiting ∧
        firmware.lastOfSection (.inl .dispatcher) = false := by
  obtain ⟨pipeline, stepped, rfl⟩ := step_dispatcher taken
  obtain ⟨bridge, dispatcher, moved, rfl⟩ := Pipeline.step_dispatcher_cases stepped
  have step := NmeaBridge.stepDispatcher_cases moved
  generalize pc : firmware.pipeline.dispatcher = before at step
  cases step with
  | takes | endsUnsent | ends | locks | skips | calls | operates | returns | accounts =>
      simp [lastOfSection, pc, DispatcherPc.locked]

theorem busy_of_guarded (guarded : firmware.mutex? .dispatcher = some mutex) :
    firmware.pipeline.dispatcher ≠ .waiting ∧ mutex = .sinksLock := by
  rw [mutex?_dispatcher] at guarded
  split at guarded
  · contradiction
  · exact ⟨‹_›, (Option.some.inj guarded).symm⟩

/-- A thread at the last step of its section comes to the place after it. -/
theorem afterSection (taken : (withReaders config).step firmware action = some next)
    (guarded : firmware.mutex? (threadOf action) = some mutex)
    (last : firmware.lastOfSection action = true) : next.AfterSection mutex (threadOf action) := by
  match action, taken with
  | .inl (.uart ch sys), taken =>
      cases taken
      change (firmware.pipeline.stepUart ch sys).uartPc = .poll
      cases pc : firmware.pipeline.uartPc with
      | ledReceived => simp [Pipeline.stepUart, pc]
      | poll | publish | put => simp [threadOf, Firmware.mutex?, pc] at guarded
  | .inl .dispatcher, taken =>
      exact (dispatcher_section taken (busy_of_guarded guarded).1).mpr last
  | .inl (.client i sys), taken =>
      have taken : firmware.stepClient i sys = some next := taken
      obtain ⟨client, pipeline, moves, rfl⟩ := stepClient_moves taken
      simp only [threadOf, AfterSection, setClient, Function.update_self]
      cases moves with
      | enter | session thread | returned | clearFd => simp [*]
      | closeFd => simp
      | clearActive thread =>
          simpa [threadOf, Firmware.mutex?, thread, eq_comm] using guarded
      | logging thread => simp [threadOf, Firmware.mutex?, thread] at guarded
  | .inl (.server sys), taken | .inl (.outbound sys), taken => exact trivial
  | .inr reader, taken => exact trivial

theorem statusLedMutex?_eq_some (shows : statusLedMutex? config = some mutex) :
    mutex = .statusLedLock := by
  unfold statusLedMutex? at shows
  split at shows
  · exact (Option.some.inj shows).symm
  · contradiction

theorem uart_of_guarded (guarded : firmware.mutex? .uart = some mutex) :
    firmware.pipeline.uartPc = .ledReceived ∧ mutex = .statusLedLock := by
  cases pc : firmware.pipeline.uartPc with
  | ledReceived =>
      simp only [Firmware.mutex?, pc] at guarded
      exact ⟨rfl, statusLedMutex?_eq_some guarded⟩
  | poll | publish | put => simp [Firmware.mutex?, pc] at guarded

/-- A section of a session, with the dispatcher out of the way. -/
theorem stepSession_goesOn {owner : Owner config}
    (guarded : (firmware.pipeline.sessions owner).pc.mutex? = some mutex)
    (alone : ¬ Midway firmware .dispatcher mutex) :
    firmware.stepSession owner {} ≠ none ∧ (firmware.pipeline.sessions owner).pc ≠ .returned := by
  have stepped : firmware.pipeline.stepSession owner {} ≠ none := by
    cases pc : (firmware.pipeline.sessions owner).pc with
    | sinkOpen | takeCheck | sinkClose =>
        rw [pc] at guarded
        cases guarded
        have unlocked : firmware.pipeline.dispatcher.locked = false :=
          Bool.eq_false_iff.mpr fun locked => alone ⟨rfl, rfl, locked⟩
        apply Pipeline.step_session_ne_none (by simp [TcpNmeaSession.needsSinksLock, pc]) unlocked
    | ledStarted | ledSendFailed | ledForwarded | ledEnded =>
        simp [Pipeline.stepSession, TcpNmeaSession.needsSinksLock, TcpNmeaSession.step, pc]
    | _ => simp [SessionPc.mutex?, pc] at guarded
  obtain ⟨pipeline, stepped⟩ := Option.ne_none_iff_exists'.mp stepped
  constructor
  · simp [stepSession, stepped]
  · intro returned
    simp [SessionPc.mutex?, returned] at guarded

theorem dispatcher_goesOn (ready : firmware.pipeline.dispatcher ≠ .waiting ∨
    firmware.pipeline.shared.bridge.ingestMsgq.items ≠ []) :
    (withReaders config).step firmware (.inl .dispatcher) ≠ none := by
  have stepped : firmware.pipeline.step .dispatcher ≠ none := by
    by_cases waiting : firmware.pipeline.dispatcher = .waiting
    · cases taken : firmware.pipeline.shared.bridge.ingestMsgq.get with
      | none =>
          have empty := BoundedQueue.get_eq_none_iff.mp taken
          exact absurd empty (ready.resolve_left (· waiting))
      | some taken' => simp [Pipeline.step, NmeaBridge.stepDispatcher, waiting, taken]
    · obtain ⟨bridge, dispatcher, moved, -⟩ :=
        firmware.pipeline.shared.bridge.outcome_step waiting
      simp [Pipeline.step, moved]
  obtain ⟨pipeline, stepped⟩ := Option.ne_none_iff_exists'.mp stepped
  simp [withReaders, step, stepped]

/-- A section that nobody is midway in can be gone on with. -/
theorem section_goesOn (guarded : firmware.mutex? thread = some mutex)
    (alone : ∀ other, other ≠ thread → ¬ Midway firmware other mutex) :
    ∃ action, threadOf action = thread ∧
      (withReaders config).step firmware action ≠ none := by
  cases thread with
  | uart => exact ⟨.inl (.uart 0 {}), rfl, by simp [withReaders, step]⟩
  | dispatcher =>
      exact ⟨.inl .dispatcher, rfl, dispatcher_goesOn (.inl (busy_of_guarded guarded).1)⟩
  | server =>
      refine ⟨.inl (.server {}), rfl, ?_⟩
      cases pc : firmware.server with
      | allocClient fd =>
          simp only [withReaders, step, stepServer, pc]
          split <;> simp
      | _ => simp [Firmware.mutex?, pc] at guarded
  | client i =>
      refine ⟨.inl (.client i {}), rfl, ?_⟩
      cases pc : (firmware.clients i).thread with
      | none => simp [Firmware.mutex?, pc] at guarded
      | some place =>
          cases place with
          | session =>
              simp only [Firmware.mutex?, pc] at guarded
              obtain ⟨goesOn, running⟩ := stepSession_goesOn guarded (alone _ (by simp))
              simpa [withReaders, step, stepClient, pc, running] using goesOn
          | clearActive => simp [withReaders, step, stepClient, pc]
          | enter | clearFd | closeFd | logging => simp [Firmware.mutex?, pc] at guarded
  | outbound =>
      refine ⟨.inl (.outbound {}), rfl, ?_⟩
      cases pc : firmware.outbound.pc with
      | session =>
          simp only [Firmware.mutex?, pc] at guarded
          obtain ⟨goesOn, running⟩ := stepSession_goesOn guarded (alone _ (by simp))
          simpa [withReaders, step, stepOutbound, pc, running] using goesOn
      | ledConnecting | ledConnected fd | ledDisconnected =>
          simp [withReaders, step, stepOutbound, pc]
      | _ => simp [Firmware.mutex?, pc] at guarded
  | reader reader => exact ⟨.inr reader, rfl, by simp [withReaders]⟩

theorem disciplined (config : Config) :
    Locking.Disciplined (locking config) (withReaders config) Midway
      (fun firmware thread mutex => firmware.AfterSection mutex thread) where
  stays := mutex?_stays
  continues := by
    intro firmware action next mutex _ taken guarded goesOn
    match action, taken with
    | .inl .dispatcher, taken =>
        obtain ⟨busy, rfl⟩ := busy_of_guarded guarded
        have going : next.pipeline.dispatcher ≠ .waiting := by
          intro waiting
          have last := (dispatcher_section taken busy).mp waiting
          exact Bool.false_ne_true (goesOn.symm.trans last)
        exact mutex?_dispatcher.trans (if_neg going)
    | .inl (.uart ch sys), taken | .inl (.server sys), taken | .inl (.client i sys), taken
    | .inl (.outbound sys), taken | .inr reader, taken => contradiction
  unbegun := by
    rintro firmware thread mutex ⟨pipeline, ⟨fd, name, sink, rfl⟩, rfl⟩ ⟨-, -, locked⟩
    contradiction
  begins := by
    rintro firmware action next thread mutex _ taken ⟨rfl, rfl, locked⟩
    split
    · rename_i own
      match action, taken with
      | .inl .dispatcher, taken =>
          obtain ⟨busy, goesOn⟩ := (locked_iff taken).mp locked
          exact ⟨mutex?_dispatcher.trans (if_neg busy), goesOn⟩
    · rename_i other
      have same : next.pipeline.dispatcher = firmware.pipeline.dispatcher :=
        step_samePlace_of_noClient taken other nofun
      exact ⟨rfl, rfl, same ▸ locked⟩
  finishes _ := afterSection
  rests := by
    intro firmware action next thread mutex _ taken other rests
    cases step_samePlace taken other with
    | inl same =>
        cases thread with
        | uart | dispatcher => exact same.trans rests
        | client i =>
            rw [AfterSection, same.1]
            exact rests
        | server | outbound | reader => trivial
    | inr starts =>
        obtain ⟨i, rfl, -, enter⟩ := starts
        simp [AfterSection, enter]
  goesOn _ := section_goesOn

/-- While the dispatcher hands a frame out, no session makes a section under `sinks_lock`. -/
theorem unlocked_of_stepSession {owner : Owner config} {sys : SysReturn}
    {pipeline : Pipeline config (Owner config)}
    (moved : firmware.pipeline.stepSession owner sys = some pipeline)
    (guarded : (firmware.pipeline.sessions owner).pc.mutex? = some .sinksLock) :
    firmware.pipeline.dispatcher.locked = false := by
  have needs : (firmware.pipeline.sessions owner).needsSinksLock = true := by
    cases pc : (firmware.pipeline.sessions owner).pc with
    | sinkOpen | takeCheck | sinkClose => simp [TcpNmeaSession.needsSinksLock, pc]
    | ledStarted | ledSendFailed | ledForwarded | ledEnded =>
        rw [pc] at guarded
        have shows := statusLedMutex?_eq_some guarded
        contradiction
    | _ => simp [SessionPc.mutex?, pc] at guarded
  cases locked : firmware.pipeline.dispatcher.locked with
  | false => rfl
  | true => simp [Pipeline.stepSession, needs, locked] at moved

theorem section_excludes (taken : (withReaders config).step firmware action = some next)
    (guarded : firmware.mutex? (threadOf action) = some mutex)
    (other : thread ≠ threadOf action) : ¬ Midway firmware thread mutex := by
  rintro ⟨rfl, rfl, locked⟩
  match action, taken with
  | .inl .dispatcher, taken => contradiction
  | .inl (.uart ch sys), taken => exact absurd (uart_of_guarded guarded).2 (by simp)
  | .inl (.server sys), taken =>
      cases pc : firmware.server <;> simp [threadOf, Firmware.mutex?, pc] at guarded
  | .inl (.client i sys), taken =>
      obtain ⟨client, pipeline, moves, rfl⟩ := stepClient_moves taken
      cases moves with
      | session thread moved =>
          simp only [threadOf, Firmware.mutex?, thread] at guarded
          exact Bool.false_ne_true ((unlocked_of_stepSession moved guarded).symm.trans locked)
      | returned thread ended =>
          simp [threadOf, Firmware.mutex?, thread, ended, SessionPc.mutex?] at guarded
      | enter thread | clearFd thread | closeFd thread | clearActive thread | logging thread =>
          simp [threadOf, Firmware.mutex?, thread] at guarded
  | .inl (.outbound sys), taken =>
      obtain ⟨outbound, pipeline, nextFd, moves, rfl⟩ := stepOutbound_moves taken
      cases moves with
      | session pc moved =>
          simp only [threadOf, Firmware.mutex?, pc] at guarded
          exact Bool.false_ne_true ((unlocked_of_stepSession moved guarded).symm.trans locked)
      | returned pc ended =>
          simp [threadOf, Firmware.mutex?, pc, ended, SessionPc.mutex?] at guarded
      | enter pc =>
          simp only [threadOf, Firmware.mutex?, pc] at guarded
          have shows := statusLedMutex?_eq_some guarded
          contradiction
      | waits before =>
          cases pc : firmware.outbound.pc with
          | session => contradiction
          | ledConnecting | ledConnected fd | ledDisconnected =>
              simp only [threadOf, Firmware.mutex?, pc] at guarded
              have shows := statusLedMutex?_eq_some guarded
              contradiction
          | _ => simp [threadOf, Firmware.mutex?, pc] at guarded
  | .inr reader, taken =>
      cases reader <;> simp [threadOf, Firmware.mutex?, Reader.mutex] at guarded

theorem serial (config : Config) :
    Locking.Serial (locking config) (withReaders config) Midway where
  entered := by
    intro firmware action next mutex taken guarded goesOn
    match action, taken with
    | .inl .dispatcher, taken =>
        obtain ⟨busy, rfl⟩ := busy_of_guarded guarded
        exact ⟨rfl, rfl, (locked_iff taken).mpr ⟨busy, goesOn⟩⟩
    | .inl (.uart ch sys), taken | .inl (.server sys), taken | .inl (.client i sys), taken
    | .inl (.outbound sys), taken | .inr reader, taken => contradiction
  stays := by
    rintro firmware action next thread mutex _ taken other ⟨rfl, rfl, locked⟩
    have same : next.pipeline.dispatcher = firmware.pipeline.dispatcher :=
      step_samePlace_of_noClient taken other nofun
    exact ⟨rfl, rfl, same ▸ locked⟩
  excludes := section_excludes

end Firmware

end EspNmeaBridge
