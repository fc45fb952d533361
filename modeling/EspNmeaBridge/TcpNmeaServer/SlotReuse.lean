import EspNmeaBridge.Firmware

/-!
# Reuse of client slots

A client thread gives its slot back in `close_client`, before it has returned.  The
server thread can therefore hand the slot out again, and reach `k_thread_create` for
it, while the old thread still runs on the slot's stack.  `SlotsKept` says which
threads can be running in which slots; the window between the unlock in
`close_client` and the return of `client_thread` is the only one left open.
-/

namespace EspNmeaBridge

open Library

variable {config : Config}

namespace Firmware

/-- The slot `k_thread_create` is applied to in this step. -/
def createdSlot (firmware : Firmware config) :
    FirmwareAction config → Option (Fin config.tcpNmeaServerMaxClients)
  | .server _ =>
      match firmware.server with
      | .createThread i => some i
      | _ => none
  | _ => none

/-- `k_thread_create` is applied only to a slot whose thread has returned. -/
def CreatesOnFree (firmware : Firmware config) (action : FirmwareAction config) : Prop :=
  ∀ i, firmware.createdSlot action = some i → (firmware.clients i).thread = none

/-- `k_thread_create` is not applied to a slot whose thread has left the locked part
of `close_client` and not returned. -/
def CreatesOutsideWindow (firmware : Firmware config) (action : FirmwareAction config) : Prop :=
  ∀ i, firmware.createdSlot action = some i → (firmware.clients i).thread ≠ some .logging

/-- The server thread has allocated the slot and not created its thread. -/
def Reserves (server : ServerPc config) (i : Fin config.tcpNmeaServerMaxClients) : Prop :=
  (∃ fd, server = .setFd i fd) ∨ server = .createThread i

/-- A thread past the entry of its slot and before the end of `close_client` keeps
the slot active, and a reserved slot is active with no such thread. -/
structure SlotsKept (clients : TcpNmeaServer.Clients config) (server : ServerPc config) : Prop where
  running : ∀ i pc, (clients i).thread = some pc → (clients i).active = true ∨ pc = .logging
  reserved : ∀ i, Reserves server i → (clients i).active = true ∧
    ((clients i).thread = none ∨ (clients i).thread = some .logging)

namespace SlotsKept

variable {clients : TcpNmeaServer.Clients config} {server : ServerPc config}

/-- No slot is reserved. -/
theorem free (kept : SlotsKept clients server) {server' : ServerPc config}
    (none : ∀ i, ¬ Reserves server' i) : SlotsKept clients server' where
  running := kept.running
  reserved i reserves := (none i reserves).elim

/-- One slot is reserved at most. -/
theorem reserve (kept : SlotsKept clients server) {server' : ServerPc config}
    (i : Fin config.tcpNmeaServerMaxClients) (only : ∀ j, Reserves server' j → j = i)
    (active : (clients i).active = true)
    (thread : (clients i).thread = none ∨ (clients i).thread = some .logging) :
    SlotsKept clients server' where
  running := kept.running
  reserved j reserves := by
    obtain rfl := only j reserves
    exact ⟨active, thread⟩

/-- A change of one slot. -/
theorem update (kept : SlotsKept clients server) {i : Fin config.tcpNmeaServerMaxClients}
    {client : ClientSlot}
    (running : ∀ pc, client.thread = some pc → client.active = true ∨ pc = .logging)
    (reserved : Reserves server i → client.active = true ∧
      (client.thread = none ∨ client.thread = some .logging)) :
    SlotsKept (Function.update clients i client) server where
  running j pc thread := by
    by_cases same : j = i
    · subst same
      rw [Function.update_self] at thread ⊢
      exact running pc thread
    · rw [Function.update_of_ne same] at thread ⊢
      exact kept.running j pc thread
  reserved j reserves := by
    by_cases same : j = i
    · subst same
      rw [Function.update_self]
      exact reserved reserves
    · rw [Function.update_of_ne same]
      exact kept.reserved j reserves

/-- A slot whose thread is before its end is not reserved. -/
theorem not_reserves (kept : SlotsKept clients server) {i : Fin config.tcpNmeaServerMaxClients}
    {pc : ClientPc} (thread : (clients i).thread = some pc) (early : pc ≠ .logging) :
    ¬ Reserves server i := by
  intro reserves
  rcases (kept.reserved i reserves).2 with none | logging
  · rw [none] at thread
    contradiction
  · rw [logging] at thread
    exact early (Option.some.inj thread).symm

/-- No thread is before its end in an inactive slot. -/
theorem idle_of_inactive (kept : SlotsKept clients server)
    {i : Fin config.tcpNmeaServerMaxClients} (inactive : (clients i).active = false) :
    (clients i).thread = none ∨ (clients i).thread = some .logging := by
  cases thread : (clients i).thread with
  | none => exact Or.inl rfl
  | some pc =>
      have running := kept.running i pc thread
      rw [inactive] at running
      exact Or.inr (congrArg some (running.resolve_left Bool.false_ne_true))

end SlotsKept

section Steps

variable {firmware next : Firmware config} {sys : SysReturn} {action : FirmwareAction config}

/-- The slots of a firmware state are kept. -/
def Kept (firmware : Firmware config) : Prop := SlotsKept firmware.clients firmware.server

theorem Kept.stepServer (kept : firmware.Kept) (taken : firmware.stepServer sys = some next) :
    next.Kept := by
  have unreserved : ∀ server : ServerPc config, (∀ i fd, server ≠ .setFd i fd) →
      (∀ i, server ≠ .createThread i) → ∀ i, ¬ Reserves server i := by
    intro server notSet notCreate i reserves
    rcases reserves with ⟨fd, equal⟩ | equal
    · exact notSet i fd equal
    · exact notCreate i equal
  cases stepServer_moves taken with
  | socket | bind | listen =>
      refine SlotsKept.free kept (unreserved _ ?_ ?_) <;> intros <;> split <;> simp
  | closeListener | accepts | full | reject =>
      exact SlotsKept.free kept (unreserved _ (by simp) (by simp))
  | acceptFails => exact kept
  | @allocates fd i server inactive =>
      have idle := kept.idle_of_inactive inactive
      have updated : SlotsKept (Function.update firmware.clients i
          { firmware.clients i with fd := -1, active := true }) .accept :=
        (SlotsKept.free kept (unreserved _ (by simp) (by simp))).update (fun _ _ => Or.inl rfl)
          fun _ => ⟨rfl, idle⟩
      refine updated.reserve i ?_ (by simp) (by simpa using idle)
      rintro j (⟨fd, equal⟩ | equal)
      · exact (ServerPc.setFd.inj equal).1.symm
      · contradiction
  | @setFd fd i server =>
      have own := kept.reserved i (Or.inl ⟨fd, server⟩)
      have updated : SlotsKept (Function.update firmware.clients i
          { firmware.clients i with fd }) firmware.server :=
        SlotsKept.update kept (fun pc thread => kept.running i pc thread) fun _ => own
      refine updated.reserve i ?_ (by simpa using own.1) (by simpa using own.2)
      rintro j (⟨fd, equal⟩ | equal)
      · contradiction
      · exact (ServerPc.createThread.inj equal).symm
  | @createThread i server =>
      have own := kept.reserved i (Or.inr server)
      have none := unreserved .accept (by simp) (by simp)
      exact (SlotsKept.free kept none).update (fun _ _ => Or.inl own.1) fun reserves =>
        (none i reserves).elim

theorem Kept.stepClient (kept : firmware.Kept) {i : Fin config.tcpNmeaServerMaxClients}
    (taken : firmware.stepClient i sys = some next) : next.Kept := by
  obtain ⟨client, pipeline, moves, rfl⟩ := stepClient_moves taken
  apply SlotsKept.update kept
  · cases moves with
    | enter thread | session thread | returned thread | clearFd thread | closeFd thread =>
        have := kept.running i _ thread
        simp_all
    | clearActive thread => simp
    | logging thread => simp
  · intro reserves
    cases moves with
    | logging thread => exact ⟨(kept.reserved i reserves).1, Or.inl rfl⟩
    | enter thread | session thread | returned thread | clearFd thread | closeFd thread
    | clearActive thread => exact (kept.not_reserves thread (by decide) reserves).elim

/-- Every step keeps the slots. -/
theorem Kept.step (kept : firmware.Kept) (taken : firmware.step action = some next) :
    next.Kept := by
  cases action with
  | uart ch sys =>
      obtain rfl := Option.some.inj taken
      exact kept
  | dispatcher =>
      obtain ⟨pipeline, _, rfl⟩ := step_dispatcher taken
      exact kept
  | server sys => exact kept.stepServer taken
  | client i sys => exact kept.stepClient taken
  | outbound sys =>
      obtain ⟨outbound, pipeline, nextFd, _, rfl⟩ := stepOutbound_moves taken
      exact kept

theorem Kept.of_initial (initial : firmware.Initial) : firmware.Kept := by
  obtain ⟨pipeline, _, rfl⟩ := initial
  refine ⟨fun i pc thread => by simp at thread, fun i reserves => ?_⟩
  rcases reserves with ⟨fd, equal⟩ | equal <;> split at equal <;> contradiction

/-- In a kept state the window is the only way to hit a running thread. -/
theorem Kept.createsOnFree_iff_step (kept : firmware.Kept) :
    firmware.CreatesOnFree action ↔ firmware.CreatesOutsideWindow action := by
  apply forall_congr'
  intro i
  apply imp_congr_right
  intro created
  have reserves : Reserves firmware.server i := by
    unfold createdSlot at created
    repeat' split at created
    all_goals simp_all [Reserves]
  rcases (kept.reserved i reserves).2 with none | logging
  · simp [none]
  · simp [logging]

end Steps

instance decidableCreatesOnFree (firmware : Firmware config)
    (action : FirmwareAction config) : Decidable (firmware.CreatesOnFree action) :=
  inferInstanceAs (Decidable (∀ _, _ → _))

instance decidableCreatesOutsideWindow (firmware : Firmware config)
    (action : FirmwareAction config) : Decidable (firmware.CreatesOutsideWindow action) :=
  inferInstanceAs (Decidable (∀ _, _ → _))

/-- A run never applies `k_thread_create` to a slot whose thread still runs exactly
when it never applies it inside the window. -/
theorem createsOnFree_iff {start : Firmware config} (initial : (machine config).init start)
    (actions : List (FirmwareAction config)) :
    (machine config).Along CreatesOnFree start actions ↔
      (machine config).Along CreatesOutsideWindow start actions :=
  Machine.along_congr Kept CreatesOnFree CreatesOutsideWindow
    (fun _ _ _ kept taken => Kept.step kept taken)
    (fun _ _ kept => Kept.createsOnFree_iff_step kept) (Kept.of_initial initial) actions

/-- The committed configuration at start-up. -/
def atStart : Firmware Config.committed where
  pipeline := { sessions := fun _ => { fd := 0, sinkName := none, sink := ⟨0⟩ } }
  server := .socket
  outbound := { pc := .waitHost }

/-- A peer connects to the first slot and closes the connection at once; the client
thread gives the slot back. -/
def connectAndClose : List (FirmwareAction Config.committed) :=
  List.replicate 7 (.server {}) ++ List.replicate 13 (.client 0 {})

/-- The next peer connects after the client thread has returned. -/
def reconnectLater : List (FirmwareAction Config.committed) :=
  connectAndClose ++ [.client 0 {}] ++ List.replicate 4 (.server {})

theorem createsOnFree_reconnectLater :
    (machine Config.committed).Along CreatesOnFree atStart reconnectLater := by
  have outside : (machine Config.committed).Along CreatesOutsideWindow atStart reconnectLater := by
    decide
  exact (createsOnFree_iff ⟨_, ⟨_, _, _, rfl⟩, rfl⟩ reconnectLater).mpr outside

/-- The next peer connects before the client thread has returned: the new thread is
created on a stack in use. -/
def reconnectAtOnce : List (FirmwareAction Config.committed) :=
  connectAndClose ++ List.replicate 4 (.server {})

theorem creates_on_running_slot :
    ¬ ∀ (config : Config) (start : Firmware config) (actions : List (FirmwareAction config)),
      (machine config).init start → (machine config).Along CreatesOnFree start actions := by
  intro safe
  have free := safe Config.committed atStart reconnectAtOnce ⟨_, ⟨_, _, _, rfl⟩, rfl⟩
  exact absurd free (by decide)

end Firmware

end EspNmeaBridge
