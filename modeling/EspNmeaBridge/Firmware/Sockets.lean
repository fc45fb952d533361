import EspNmeaBridge.Firmware.SinkCapacity
import EspNmeaBridge.Library.Lifetimes

/-!
# Socket ownership

A descriptor returned by `zsock_accept` or `zsock_socket` passes from the server thread
to a slot, and from there into the session, which closes it; the outbound client keeps
its own.  `holding` reads off the threads' positions who has which descriptor in hand.
A step issues a descriptor, uses or closes the one its thread holds, or hands it on.
-/

namespace EspNmeaBridge

open Library

variable {config : Config}

namespace TcpNmeaSession

/-- The session's socket, until it is closed. -/
def socket (session : TcpNmeaSession config) : Option Int :=
  if session.pc = .returned then none else some session.fd

/-- What the next step does with the socket: `zsock_recv` and `zsock_send` use it. -/
def socketEvents (session : TcpNmeaSession config) : List (LifeEvent Int) :=
  match session.pc with
  | .closeUnopened | .closeFd => [.closed session.fd]
  | .drain | .drainAfter => [.used session.fd]
  | .send frame sentTotal => if sentTotal < frame.data.length then [.used session.fd] else []
  | _ => []

/-- How a step treats the socket. -/
inductive SocketStep (session session' : TcpNmeaSession config) : List (LifeEvent Int) → Prop where
  | idle (same : session'.socket = session.socket) : SocketStep session session' []
  | uses (same : session'.socket = session.socket) : SocketStep session session' [.used session.fd]
  | closes (gone : session'.socket = none) : SocketStep session session' [.closed session.fd]

variable {shared shared' : SessionShared config} {session session' : TcpNmeaSession config}
  {sys : SysReturn}

theorem socket_of_running (running : session.pc ≠ .returned) : session.socket = some session.fd :=
  if_neg running

/-- A step keeps the descriptor, and returns exactly when it has closed it. -/
theorem step_fd (taken : session.step shared sys = some (shared', session')) :
    session'.fd = session.fd ∧
      (session'.pc = .returned ↔ session.pc = .closeUnopened ∨ session.pc = .closeFd) := by
  cases pc : session.pc with
  | sinkOpen =>
      rcases step_sinkOpen pc taken with ⟨_, _, _, rfl⟩ | ⟨_, _, rfl⟩ <;> simp
  | takeCheck =>
      obtain ⟨_, ⟨slot, _, rfl⟩ | rfl | rfl⟩ := step_takeCheck pc taken <;> simp
  | takeGet slot =>
      rcases step_takeGet pc taken with ⟨frame, msgq, _, _, rfl⟩ | ⟨_, rfl⟩ <;> simp
  | send frame sentTotal =>
      obtain ⟨_, sent⟩ := step_send pc taken
      unfold sendAll at sent
      repeat' split at sent
      all_goals first
        | contradiction
        | obtain rfl := Option.some.inj sent
          simp [pc]
  | drain | drainAfter =>
      simp only [step, pc, Option.some.injEq, Prod.mk.injEq] at taken
      rw [← taken.2]
      unfold drainSocketRx
      repeat' split
      all_goals simp [pc]
  | sinkClose =>
      rcases step_sinkClose pc taken with ⟨i, _, _, rfl⟩ | ⟨_, _, rfl⟩ <;> simp
  | closeUnopened | incActive | ledStarted | takeCount slot frame | ledSendFailed | ledForwarded
  | ledEnded | decActive | closeFd =>
      simp only [step, pc, Option.some.injEq, Prod.mk.injEq] at taken
      rw [← taken.2]
      simp
  | returned => simp [step, pc] at taken

theorem step_socket (taken : session.step shared sys = some (shared', session')) :
    session.socket = some session.fd ∧ SocketStep session session' session.socketEvents := by
  obtain ⟨fd, returns⟩ := step_fd taken
  have running : session.pc ≠ .returned := by
    intro returned
    simp [step, returned] at taken
  have owned := socket_of_running running
  refine ⟨owned, ?_⟩
  have keeps : ¬ (session.pc = .closeUnopened ∨ session.pc = .closeFd) →
      session'.socket = session.socket := by
    intro stays
    rw [owned, socket_of_running fun returned => stays (returns.mp returned), fd]
  have gone : session.pc = .closeUnopened ∨ session.pc = .closeFd → session'.socket = none :=
    fun closes => if_pos (returns.mpr closes)
  unfold socketEvents
  cases pc : session.pc with
  | closeUnopened | closeFd => exact .closes (gone (by simp [pc]))
  | drain | drainAfter => exact .uses (keeps (by simp [pc]))
  | send frame sentTotal =>
      dsimp only
      split
      · exact .uses (keeps (by simp [pc]))
      · exact .idle (keeps (by simp [pc]))
  | sinkOpen | incActive | ledStarted | takeCheck | takeGet _ | takeCount _ _ | ledSendFailed
  | ledForwarded | ledEnded | decActive | sinkClose | returned =>
      exact .idle (keeps (by simp [pc]))

end TcpNmeaSession

/-- Who can hold a descriptor. -/
inductive SocketHolder (config : Config) where
  | server
  | slot (i : Fin config.tcpNmeaServerMaxClients)
  | outbound
  deriving DecidableEq

namespace Firmware

/-- The descriptor that is in a thread's hands, from its issue or hand-over to its close
or hand-over. -/
def holding (firmware : Firmware config) : SocketHolder config → Option Int
  | .server =>
      match firmware.server with
      | .allocClient fd | .reject fd | .setFd _ fd => some fd
      | .createThread i => some (firmware.clients i).fd
      | _ => none
  | .slot i =>
      match (firmware.clients i).thread with
      | some .enter => some (firmware.clients i).fd
      | some .session => (firmware.pipeline.sessions (some i)).socket
      | _ => none
  | .outbound =>
      match firmware.outbound.pc with
      | .connect fd | .closeFailed fd | .setNonblock fd | .ledConnected fd => some fd
      | .session => (firmware.pipeline.sessions none).socket
      | _ => none

/-- What a step does with the descriptors that `zsock_accept` and the client's
`zsock_socket` return. -/
def socketEvents (firmware : Firmware config) : FirmwareAction config → List (LifeEvent Int)
  | .uart _ _ | .dispatcher => []
  | .server sys =>
      match firmware.server with
      | .accept => if sys.ret < 0 then [] else [.issued firmware.nextFd]
      | .reject fd => [.closed fd]
      | _ => []
  | .client i _ =>
      match (firmware.clients i).thread with
      | some .session => (firmware.pipeline.sessions (some i)).socketEvents
      | some .closeFd =>
          if (firmware.clients i).fd ≥ 0 then [.closed (firmware.clients i).fd] else []
      | _ => []
  | .outbound sys =>
      match firmware.outbound.pc with
      | .socket => if sys.ret < 0 then [] else [.issued firmware.nextFd]
      | .closeFailed fd => [.closed fd]
      | .session => (firmware.pipeline.sessions none).socketEvents
      | _ => []

/-- How a step moves the descriptors. -/
inductive SocketMove (firmware next : Firmware config) : List (LifeEvent Int) → Prop where
  | keeps (fds : next.nextFd = firmware.nextFd)
      (same : ∀ holder, next.holding holder = firmware.holding holder) : SocketMove firmware next []
  | uses {fd : Int} (holder : SocketHolder config) (fds : next.nextFd = firmware.nextFd)
      (owned : firmware.holding holder = some fd)
      (same : ∀ other, next.holding other = firmware.holding other) :
      SocketMove firmware next [.used fd]
  | issues (holder : SocketHolder config) (fds : next.nextFd = firmware.nextFd + 1)
      (idle : firmware.holding holder = none)
      (owns : next.holding holder = some (firmware.nextFd : Int))
      (others : ∀ other, other ≠ holder → next.holding other = firmware.holding other) :
      SocketMove firmware next [.issued (firmware.nextFd : Int)]
  | closes {fd : Int} (holder : SocketHolder config) (fds : next.nextFd = firmware.nextFd)
      (owned : firmware.holding holder = some fd) (gone : next.holding holder = none)
      (others : ∀ other, other ≠ holder → next.holding other = firmware.holding other) :
      SocketMove firmware next [.closed fd]
  | transfers {fd : Int} (holder receiver : SocketHolder config)
      (fds : next.nextFd = firmware.nextFd) (owned : firmware.holding holder = some fd)
      (idle : firmware.holding receiver = none) (gone : next.holding holder = none)
      (received : next.holding receiver = some fd)
      (others : ∀ other, other ≠ holder → other ≠ receiver →
        next.holding other = firmware.holding other) : SocketMove firmware next []

/-- `client_thread` has cleared the slot's descriptor when it calls `close_client`. -/
def FdCleared (firmware : Firmware config) : Prop :=
  ∀ i, (firmware.clients i).thread = some .closeFd → (firmware.clients i).fd < 0

section Steps

variable {firmware next : Firmware config} {sys : SysReturn} {action : FirmwareAction config}
  {i : Fin config.tcpNmeaServerMaxClients}

theorem holding_slot (client : next.clients i = firmware.clients i)
    (session : next.pipeline.sessions (some i) = firmware.pipeline.sessions (some i)) :
    next.holding (.slot i) = firmware.holding (.slot i) := by
  simp only [holding, client, session]

theorem holding_outbound (pc : next.outbound.pc = firmware.outbound.pc)
    (session : next.pipeline.sessions none = firmware.pipeline.sessions none) :
    next.holding .outbound = firmware.holding .outbound := by
  simp only [holding, pc, session]

/-- The server's descriptor is in its slot when the thread is created. -/
theorem holding_server (server : next.server = firmware.server)
    (fd : ∀ i, firmware.server = .createThread i →
      (next.clients i).fd = (firmware.clients i).fd) :
    next.holding .server = firmware.holding .server := by
  simp only [holding, server]
  cases created : firmware.server with
  | createThread i => exact congrArg some (fd i created)
  | stopped | socket | bind | listen | closeListener | accept | allocClient fd | reject fd
  | setFd i fd => rfl

/-- A slot holds nothing before its thread is created and after it has ended. -/
theorem holding_slot_idle (idle : (firmware.clients i).thread = none ∨
    (firmware.clients i).thread = some .logging) : firmware.holding (.slot i) = none := by
  rcases idle with none | logging
  · simp only [holding, none]
  · simp only [holding, logging]

/-- Nothing moves if nothing moves at one holder and elsewhere. -/
theorem SocketMove.keeps_at (holder : SocketHolder config) (fds : next.nextFd = firmware.nextFd)
    (others : ∀ other, other ≠ holder → next.holding other = firmware.holding other)
    (same : next.holding holder = firmware.holding holder) : SocketMove firmware next [] := by
  apply SocketMove.keeps fds
  intro other
  by_cases isHolder : other = holder
  · rw [isHolder, same]
  · exact others other isHolder

theorem stepServer_outbound (taken : firmware.stepServer sys = some next) :
    next.holding .outbound = firmware.holding .outbound := by
  obtain ⟨pipeline, outbound, _⟩ := stepServer_others taken
  exact holding_outbound (by rw [outbound]) (by rw [pipeline])

theorem stepServer_slot (taken : firmware.stepServer sys = some next)
    (same : next.clients i = firmware.clients i) :
    next.holding (.slot i) = firmware.holding (.slot i) :=
  holding_slot same (by rw [(stepServer_others taken).1])

theorem stepServer_others_hold (taken : firmware.stepServer sys = some next)
    (clients : next.clients = firmware.clients) :
    ∀ other, other ≠ .server → next.holding other = firmware.holding other := by
  intro other different
  cases other with
  | server => exact absurd rfl different
  | slot j => exact stepServer_slot taken (congrFun clients j)
  | outbound => exact stepServer_outbound taken

/-- A step of the server thread that changes no slot. -/
theorem stepServer_keeps (taken : firmware.stepServer sys = some next)
    (fds : next.nextFd = firmware.nextFd) (clients : next.clients = firmware.clients)
    (server : next.holding .server = firmware.holding .server) :
    SocketMove firmware next [] :=
  .keeps_at .server fds (stepServer_others_hold taken clients) server

/-- A step of the server thread that changes the slot `i` alone, while it holds nothing. -/
theorem stepServer_keeps_slot (taken : firmware.stepServer sys = some next)
    (fds : next.nextFd = firmware.nextFd)
    (clients : ∀ j, j ≠ i → next.clients j = firmware.clients j)
    (slot : next.holding (.slot i) = firmware.holding (.slot i))
    (server : next.holding .server = firmware.holding .server) :
    SocketMove firmware next [] := by
  apply SocketMove.keeps fds
  intro holder
  cases holder with
  | server => exact server
  | outbound => exact stepServer_outbound taken
  | slot j =>
      by_cases same : j = i
      · rw [same]
        exact slot
      · exact stepServer_slot taken (clients j same)

/-- The server thread touches a slot only while the slot holds nothing. -/
theorem socketMove_server (kept : firmware.Kept) (taken : firmware.stepServer sys = some next) :
    SocketMove firmware next (firmware.socketEvents (.server sys)) := by
  cases stepServer_moves taken with
  | socket server | bind server | listen server =>
      simp only [socketEvents, server]
      apply stepServer_keeps taken
      · rfl
      · rfl
      · by_cases failed : sys.ret < 0 <;> simp [holding, server, failed]
  | closeListener server =>
      simp only [socketEvents, server]
      apply stepServer_keeps taken
      · rfl
      · rfl
      · simp [holding, server]
  | acceptFails server failed =>
      simp only [socketEvents, server, failed, if_true]
      exact .keeps rfl fun _ => rfl
  | accepts server accepted =>
      simp only [socketEvents, server, accepted, if_false]
      apply SocketMove.issues .server
      · rfl
      · simp [holding, server]
      · simp [holding]
      · exact stepServer_others_hold taken rfl
  | @allocates fd i server inactive =>
      simp only [socketEvents, server]
      have idle := SlotsKept.idle_of_inactive kept inactive
      apply stepServer_keeps_slot taken
      · rfl
      · intro j different
        exact Function.update_of_ne different _ _
      · rw [holding_slot_idle idle]
        exact holding_slot_idle (by simpa using idle)
      · simp [holding, server]
  | full server =>
      simp only [socketEvents, server]
      apply stepServer_keeps taken
      · rfl
      · rfl
      · simp [holding, server]
  | reject server =>
      simp only [socketEvents, server]
      apply SocketMove.closes .server
      · rfl
      · simp [holding, server]
      · simp [holding]
      · exact stepServer_others_hold taken rfl
  | @setFd fd i server =>
      simp only [socketEvents, server]
      have idle := (kept.reserved i (Or.inl ⟨fd, server⟩)).2
      apply stepServer_keeps_slot taken
      · rfl
      · intro j different
        exact Function.update_of_ne different _ _
      · rw [holding_slot_idle idle]
        exact holding_slot_idle (by simpa [setClient] using idle)
      · simp [holding, server, setClient]
  | @createThread i server =>
      simp only [socketEvents, server]
      have idle := (kept.reserved i (Or.inr server)).2
      apply SocketMove.transfers .server (.slot i)
      · rfl
      · simp only [holding, server]
        rfl
      · exact holding_slot_idle idle
      · simp [holding]
      · simp [holding, setClient]
      · intro other notServer notSlot
        cases other with
        | server => exact absurd rfl notServer
        | slot j =>
            apply stepServer_slot taken
            apply Function.update_of_ne
            intro same
            exact notSlot (congrArg SocketHolder.slot same)
        | outbound => exact stepServer_outbound taken

/-- A session's step, for the holder that runs it. -/
theorem socketMove_session {owner : Owner config} (holder : SocketHolder config)
    {pipeline : Pipeline config (Owner config)}
    (moved : firmware.pipeline.stepSession owner sys = some pipeline)
    (fds : next.nextFd = firmware.nextFd)
    (before : firmware.holding holder = (firmware.pipeline.sessions owner).socket)
    (after : next.holding holder = (pipeline.sessions owner).socket)
    (others : ∀ other, other ≠ holder → next.holding other = firmware.holding other) :
    SocketMove firmware next (firmware.pipeline.sessions owner).socketEvents := by
  obtain ⟨shared, session, taken, rfl⟩ := Pipeline.stepSession_cases moved
  obtain ⟨owned, step⟩ := TcpNmeaSession.step_socket taken
  have now : next.holding holder = session.socket := by
    rw [after]
    simp
  have every : session.socket = (firmware.pipeline.sessions owner).socket →
      ∀ other, next.holding other = firmware.holding other := by
    intro same other
    by_cases isHolder : other = holder
    · rw [isHolder, now, same, before]
    · exact others other isHolder
  generalize (firmware.pipeline.sessions owner).socketEvents = events at step ⊢
  cases step with
  | idle same => exact .keeps fds (every same)
  | uses same => exact .uses holder fds (before.trans owned) (every same)
  | closes gone => exact .closes holder fds (before.trans owned) (now.trans gone) others

theorem socketMove_client (kept : firmware.Kept) (cleared : firmware.FdCleared)
    (taken : firmware.stepClient i sys = some next) :
    SocketMove firmware next (firmware.socketEvents (.client i sys)) := by
  obtain ⟨client, pipeline, moves, rfl⟩ := stepClient_moves taken
  have sessions : ∀ owner, owner ≠ some i →
      pipeline.sessions owner = firmware.pipeline.sessions owner := by
    intro owner different
    cases moves with
    | enter thread => exact Function.update_of_ne different _ _
    | session thread moved =>
        obtain ⟨_, _, _, rfl⟩ := Pipeline.stepSession_cases moved
        exact Function.update_of_ne different _ _
    | returned thread ended => rfl
    | clearFd thread | closeFd thread | clearActive thread | logging thread => rfl
  have fds : ∀ j, firmware.server = .createThread j →
      (Function.update firmware.clients i client j).fd = (firmware.clients j).fd := by
    intro j created
    by_cases same : j = i
    · subst same
      rw [Function.update_self]
      have reserves : Reserves firmware.server j := Or.inr created
      cases moves with
      | logging thread => rfl
      | enter thread | session thread | returned thread | clearFd thread | closeFd thread
      | clearActive thread => exact absurd reserves (kept.not_reserves thread (by decide))
    · rw [Function.update_of_ne same]
  have others : ∀ other, other ≠ .slot i →
      holding { firmware.setClient i client with pipeline } other = firmware.holding other := by
    intro other different
    cases other with
    | server => exact holding_server rfl fds
    | outbound => exact holding_outbound rfl (sessions none (by simp))
    | slot j =>
        have apart : j ≠ i := fun same => different (congrArg SocketHolder.slot same)
        apply holding_slot
        · exact Function.update_of_ne apart _ _
        · exact sessions (some j) fun same => apart (Option.some.inj same)
  have keeps : holding { firmware.setClient i client with pipeline } (.slot i) =
      firmware.holding (.slot i) →
      SocketMove firmware { firmware.setClient i client with pipeline } [] :=
    SocketMove.keeps_at (.slot i) rfl others
  cases moves with
  | enter thread =>
      simp only [socketEvents, thread]
      apply keeps
      simp [holding, thread, setClient, Pipeline.startSession, TcpNmeaSession.socket]
  | session thread moved =>
      simp only [socketEvents, thread]
      apply socketMove_session (.slot i) moved
      · rfl
      · simp only [holding, thread]
      · simp only [holding, setClient, Function.update_self, thread]
      · exact others
  | returned thread ended =>
      simp only [socketEvents, thread, TcpNmeaSession.socketEvents, ended]
      apply keeps
      simp [holding, thread, setClient, TcpNmeaSession.socket, ended]
  | clearFd thread =>
      simp only [socketEvents, thread]
      apply keeps
      simp [holding, thread, setClient]
  | closeFd thread =>
      have closed : ¬ (firmware.clients i).fd ≥ 0 := Int.not_le.mpr (cleared i thread)
      simp only [socketEvents, thread, if_neg closed]
      apply keeps
      simp [holding, thread, setClient]
  | clearActive thread =>
      simp only [socketEvents, thread]
      apply keeps
      simp [holding, thread, setClient]
  | logging thread =>
      simp only [socketEvents, thread]
      apply keeps
      simp [holding, thread, setClient]

theorem socketMove_outbound (taken : firmware.stepOutbound sys = some next) :
    SocketMove firmware next (firmware.socketEvents (.outbound sys)) := by
  -- a step that leaves the other threads and the sessions of the slots alone
  have others : next.server = firmware.server → next.clients = firmware.clients →
      (∀ j, next.pipeline.sessions (some j) = firmware.pipeline.sessions (some j)) →
      ∀ other, other ≠ .outbound → next.holding other = firmware.holding other := by
    intro server clients sessions other different
    cases other with
    | server => exact holding_server server fun j _ => by rw [clients]
    | slot j => exact holding_slot (by rw [clients]) (sessions j)
    | outbound => exact absurd rfl different
  cases pc : firmware.outbound.pc with
  | stopped => simp [stepOutbound, pc] at taken
  | waitHost =>
      simp only [socketEvents, pc]
      by_cases none : sys.ret = 0 <;>
        · simp only [stepOutbound, pc, none, if_true, if_false, Option.some.injEq] at taken
          subst taken
          exact .keeps_at .outbound rfl (others rfl rfl fun _ => rfl) (by simp [holding, pc])
  | socket =>
      simp only [socketEvents, pc]
      by_cases failed : sys.ret < 0
      · simp only [stepOutbound, pc, failed, if_true, Option.some.injEq] at taken
        subst taken
        simp only [failed, if_true]
        exact .keeps_at .outbound rfl (others rfl rfl fun _ => rfl) (by simp [holding, pc])
      · simp only [stepOutbound, pc, failed, if_false, Option.some.injEq] at taken
        subst taken
        simp only [failed, if_false]
        apply SocketMove.issues .outbound
        · rfl
        · simp [holding, pc]
        · simp [holding]
        · exact others rfl rfl fun _ => rfl
  | connect fd =>
      simp only [stepOutbound, pc, Option.some.injEq] at taken
      subst taken
      simp only [socketEvents, pc]
      apply SocketMove.keeps_at .outbound
      · rfl
      · exact others rfl rfl fun _ => rfl
      · by_cases failed : sys.ret < 0 <;> simp [holding, pc, failed]
  | closeFailed fd =>
      simp only [stepOutbound, pc, Option.some.injEq] at taken
      subst taken
      simp only [socketEvents, pc]
      apply SocketMove.closes .outbound
      · rfl
      · simp [holding, pc]
      · simp [holding]
      · exact others rfl rfl fun _ => rfl
  | setNonblock fd | retryBackoff | ledConnecting | ledDisconnected =>
      simp only [stepOutbound, pc, Option.some.injEq] at taken
      subst taken
      simp only [socketEvents, pc]
      exact .keeps_at .outbound rfl (others rfl rfl fun _ => rfl) (by simp [holding, pc])
  | ledConnected fd =>
      simp only [stepOutbound, pc, Option.some.injEq] at taken
      subst taken
      simp only [socketEvents, pc]
      apply SocketMove.keeps_at .outbound
      · rfl
      · exact others rfl rfl fun j => by simp [Pipeline.startSession, Firmware.observe]
      · simp [holding, pc, Pipeline.startSession, TcpNmeaSession.socket]
  | session =>
      simp only [stepOutbound, pc] at taken
      simp only [socketEvents, pc]
      split at taken
      · rename_i ended
        obtain rfl := Option.some.inj taken
        simp only [TcpNmeaSession.socketEvents, ended]
        apply SocketMove.keeps_at .outbound
        · rfl
        · exact others rfl rfl fun _ => rfl
        · simp [holding, pc, TcpNmeaSession.socket, ended]
      · obtain ⟨pipeline, moved, rfl⟩ := stepSession_cases taken
        apply socketMove_session .outbound moved
        · rfl
        · simp only [holding, pc]
        · simp only [holding, pc]
        · obtain ⟨_, _, _, rfl⟩ := Pipeline.stepSession_cases moved
          exact others rfl rfl fun j => by simp

/-- Every step of every thread moves the descriptors so. -/
theorem socketMove (kept : firmware.Kept) (cleared : firmware.FdCleared)
    (taken : firmware.step action = some next) :
    SocketMove firmware next (firmware.socketEvents action) := by
  cases action with
  | uart ch sys =>
      obtain rfl := Option.some.inj taken
      have sessions := (firmware.pipeline.stepUart_others ch sys).1
      refine .keeps rfl fun holder => ?_
      cases holder with
      | server => rfl
      | slot j => exact holding_slot rfl (by rw [sessions])
      | outbound => exact holding_outbound rfl (by rw [sessions])
  | dispatcher =>
      obtain ⟨pipeline, moved, rfl⟩ := step_dispatcher taken
      obtain ⟨bridge, dispatcher, _, rfl⟩ := Pipeline.step_dispatcher_cases moved
      exact .keeps rfl fun holder => by cases holder <;> rfl
  | server sys => exact socketMove_server kept taken
  | client i sys => exact socketMove_client kept cleared taken
  | outbound sys => exact socketMove_outbound taken

end Steps

/-- A change of one slot. -/
theorem FdCleared.update {firmware next : Firmware config}
    {i : Fin config.tcpNmeaServerMaxClients} {client : ClientSlot} (cleared : firmware.FdCleared)
    (clients : next.clients = Function.update firmware.clients i client)
    (own : client.thread = some .closeFd → client.fd < 0) : next.FdCleared := by
  intro j thread
  rw [clients] at thread ⊢
  by_cases same : j = i
  · subst same
    rw [Function.update_self] at thread ⊢
    exact own thread
  · rw [Function.update_of_ne same] at thread ⊢
    exact cleared j thread

theorem FdCleared.step {firmware next : Firmware config} {action : FirmwareAction config}
    (cleared : firmware.FdCleared) (kept : firmware.Kept)
    (taken : firmware.step action = some next) : next.FdCleared := by
  cases action with
  | uart ch sys =>
      obtain rfl := Option.some.inj taken
      exact cleared
  | dispatcher =>
      obtain ⟨pipeline, _, rfl⟩ := step_dispatcher taken
      exact cleared
  | server sys =>
      simp only [Firmware.step] at taken
      cases server : firmware.server with
      | stopped => simp [stepServer, server] at taken
      | accept =>
          simp only [stepServer, server] at taken
          split at taken <;> obtain rfl := Option.some.inj taken <;> exact cleared
      | allocClient fd =>
          rcases TcpNmeaServer.allocClient_cases firmware.clients with
            ⟨i, _, allocated⟩ | ⟨_, allocated⟩
          · simp only [stepServer, server, allocated, Option.some.injEq] at taken
            subst taken
            exact cleared.update rfl fun _ => by simp
          · simp only [stepServer, server, allocated, Option.some.injEq] at taken
            subst taken
            exact cleared
      | setFd i fd =>
          simp only [stepServer, server, Option.some.injEq] at taken
          subst taken
          apply cleared.update rfl
          intro thread
          exact absurd (Or.inl ⟨fd, server⟩) (kept.not_reserves thread (by decide))
      | createThread i =>
          simp only [stepServer, server, Option.some.injEq] at taken
          subst taken
          exact cleared.update rfl (by simp)
      | socket | bind | listen | closeListener | reject fd =>
          simp only [stepServer, server, Option.some.injEq] at taken
          subst taken
          exact cleared
  | client i sys =>
      obtain ⟨client, pipeline, moves, rfl⟩ := stepClient_moves taken
      apply cleared.update rfl
      cases moves with
      | session thread moved => simp [thread]
      | enter thread | returned thread | clearFd thread | closeFd thread | clearActive thread
      | logging thread => simp
  | outbound sys =>
      obtain ⟨outbound, pipeline, nextFd, _, rfl⟩ := stepOutbound_moves taken
      exact cleared

/-- The descriptor events of a run. -/
def socketHistory (start : Firmware config) (actions : List (FirmwareAction config)) :
    List (LifeEvent Int) :=
  ((machine config).trail start actions).flatMap fun step => step.1.socketEvents step.2

/-- The invariant: descriptors are held, and the next one to be issued is fresh. -/
structure SocketsHeld (events : List (LifeEvent Int)) (firmware : Firmware config) : Prop where
  held : Held events firmware.holding
  fresh : ∀ fd, .issued fd ∈ events → fd < firmware.nextFd
  cleared : firmware.FdCleared

namespace SocketsHeld

variable {firmware next : Firmware config} {events : List (LifeEvent Int)}

theorem of_initial (initial : firmware.Initial) : SocketsHeld [] firmware := by
  obtain ⟨pipeline, _, rfl⟩ := initial
  constructor
  · apply Held.start
    intro holder
    cases holder with
    | server => cases config.tcpNmeaServerEnable <;> simp [holding]
    | slot i => simp [holding]
    | outbound => cases config.tcpNmeaClientEnable <;> simp [holding]
  · intro fd issued
    cases issued
  · intro i thread
    simp at thread

theorem move (sockets : SocketsHeld events firmware) (cleared : next.FdCleared)
    {added : List (LifeEvent Int)} (moves : SocketMove firmware next added) :
    SocketsHeld (events ++ added) next := by
  have old : ∀ event : LifeEvent Int, (∀ fd, event ≠ .issued fd) →
      ∀ fd, .issued fd ∈ events ++ [event] → fd < firmware.nextFd := by
    intro event other fd issued
    rw [List.mem_append, List.mem_singleton] at issued
    exact issued.elim (sockets.fresh fd) fun last => absurd last.symm (other fd)
  cases moves with
  | keeps fds same =>
      rw [List.append_nil]
      exact ⟨sockets.held.keep same, fds ▸ sockets.fresh, cleared⟩
  | uses holder fds owned same =>
      exact ⟨sockets.held.use owned same, fds ▸ old _ (by simp), cleared⟩
  | issues holder fds idle owns others =>
      have fresh : .issued (firmware.nextFd : Int) ∉ events := by
        intro issued
        have := sockets.fresh _ issued
        omega
      refine ⟨sockets.held.issue idle fresh owns others, ?_, cleared⟩
      intro fd issued
      rw [List.mem_append, List.mem_singleton] at issued
      cases issued with
      | inl issued =>
          have := sockets.fresh fd issued
          omega
      | inr last =>
          have := LifeEvent.issued.inj last
          omega
  | closes holder fds owned gone others =>
      exact ⟨sockets.held.close owned gone others, fds ▸ old _ (by simp), cleared⟩
  | transfers holder receiver fds owned idle gone received others =>
      rw [List.append_nil]
      exact ⟨sockets.held.transfer owned idle gone received others, fds ▸ sockets.fresh, cleared⟩

end SocketsHeld

theorem socketsHeld {start firmware : Firmware config} {actions : List (FirmwareAction config)}
    (initial : start.Initial) (reached : (machine config).exec start actions = some firmware) :
    SocketsHeld (socketHistory start actions) firmware ∧ firmware.Kept := by
  apply Machine.exec_induction (motive := fun actions firmware =>
    SocketsHeld (socketHistory start actions) firmware ∧ firmware.Kept) _ _ reached
  · exact ⟨.of_initial initial, .of_initial initial⟩
  · intro actions firmware action next reached ⟨sockets, kept⟩ taken
    refine ⟨?_, kept.step taken⟩
    unfold socketHistory
    rw [Machine.trail_concat action reached, List.flatMap_append]
    simp only [List.flatMap_singleton]
    exact sockets.move (sockets.cleared.step kept taken) (socketMove kept sockets.cleared taken)

/-- The holder has let go of its last descriptor: the server thread is back at
`zsock_accept`, the slot is no longer active, the client is back at the top of its
loop. -/
def LetGo (firmware : Firmware config) : SocketHolder config → Prop
  | .server => firmware.server = .accept
  | .slot i => (firmware.clients i).active = false
  | .outbound => firmware.outbound.pc = .waitHost

/-- What is known of the descriptors after a run. -/
structure SocketsOwned (events : List (LifeEvent Int)) (firmware : Firmware config) : Prop where
  issuedOnce : ∀ fd, events.count (.issued fd) ≤ 1
  closedOnce : ∀ fd, events.count (.closed fd) ≤ 1
  closesOwn : ∀ fd, .closed fd ∈ events → .issued fd ∈ events
  unused : ∀ fd before after, events = before ++ .closed fd :: after → .used fd ∉ after
  closed : ∀ fd, .issued fd ∈ events → .closed fd ∈ events ∨
    ∃ holder, firmware.holding holder = some fd ∧ ¬ firmware.LetGo holder
  closeClient : ∀ i sys, (firmware.clients i).thread = some .closeFd →
    firmware.socketEvents (.client i sys) = []

/-- A holder that has let go holds nothing. -/
theorem Kept.not_letGo {firmware : Firmware config} (kept : firmware.Kept)
    {holder : SocketHolder config} {fd : Int} (holds : firmware.holding holder = some fd) :
    ¬ firmware.LetGo holder := by
  intro letGo
  cases holder with
  | server =>
      simp only [LetGo] at letGo
      simp [holding, letGo] at holds
  | slot i =>
      simp only [LetGo] at letGo
      cases thread : (firmware.clients i).thread with
      | none => simp [holding, thread] at holds
      | some pc =>
          have running := kept.running i pc thread
          rw [letGo] at running
          rw [running.resolve_left Bool.false_ne_true] at thread
          simp [holding, thread] at holds
  | outbound =>
      simp only [LetGo] at letGo
      simp [holding, letGo] at holds

/-- After every run from start-up, whatever the calls return. -/
theorem socketsOwned {start firmware : Firmware config} {actions : List (FirmwareAction config)}
    (initial : start.Initial) (reached : (machine config).exec start actions = some firmware) :
    SocketsOwned (socketHistory start actions) firmware := by
  obtain ⟨sockets, kept⟩ := socketsHeld initial reached
  constructor
  case issuedOnce =>
    intro fd
    exact sockets.held.count_le_one fun again => again rfl
  case closedOnce =>
    intro fd
    exact sockets.held.count_le_one fun again => again rfl
  case closesOwn => exact sockets.held.closedIssued
  case unused =>
    intro fd before after split used
    exact sockets.held.resource_ne_of_after_close split used rfl
  case closed =>
    intro fd issued
    cases sockets.held.closed_or_held issued with
    | inl closed => exact Or.inl closed
    | inr held =>
        obtain ⟨holder, holds⟩ := held
        exact Or.inr ⟨holder, holds, kept.not_letGo holds⟩
  case closeClient =>
    intro i sys thread
    have closed : ¬ (firmware.clients i).fd ≥ 0 := Int.not_le.mpr (sockets.cleared i thread)
    simp only [socketEvents, thread, if_neg closed]

/-- A connection comes and goes in the first slot, and the next one is served there
while its old thread has not returned. -/
theorem socketsOwned_reconnectAtOnce :
    ∃ firmware, (machine Config.committed).exec atStart reconnectAtOnce = some firmware ∧
      (socketHistory atStart reconnectAtOnce).count (.closed 0) = 1 ∧
      firmware.holding (.slot 0) = some 1 ∧
      SocketsOwned (socketHistory atStart reconnectAtOnce) firmware := by
  have shown : ((machine Config.committed).exec atStart reconnectAtOnce).any (fun firmware =>
      firmware.holding (.slot 0) = some 1) = true := by decide
  have closed : (socketHistory atStart reconnectAtOnce).count (.closed 0) = 1 := by decide
  obtain ⟨firmware, ran, again⟩ := (Option.any_eq_true _ _).mp shown
  refine ⟨firmware, ran, closed, of_decide_eq_true again, ?_⟩
  exact socketsOwned ⟨_, ⟨_, _, _, rfl⟩, rfl⟩ ran

end Firmware

end EspNmeaBridge
