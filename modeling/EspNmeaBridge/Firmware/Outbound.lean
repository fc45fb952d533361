import EspNmeaBridge.Firmware.SessionCounts
import EspNmeaBridge.Library.Backoff
import EspNmeaBridge.Library.Pacing

/-!
# The outbound client at work

The client thread sleeps after every attempt to connect, longer each time it fails, and it
tells the status LED whether it is connecting.  What the LED shows as its base state is
therefore a function of where the threads are.
-/

namespace EspNmeaBridge

open Library

variable {config : Config}

namespace Outbound

/-- The states of the client thread and their successors. -/
inductive Leads (outbound : Outbound) : Outbound → Prop where
  | waits (pc : outbound.pc = .waitHost) : Leads outbound outbound
  | finds (pc : outbound.pc = .waitHost) : Leads outbound { outbound with pc := .ledConnecting }
  | shows (pc : outbound.pc = .ledConnecting) : Leads outbound { outbound with pc := .socket }
  | noSocket (pc : outbound.pc = .socket) : Leads outbound { outbound with pc := .retryBackoff }
  | creates (fd : Int) (pc : outbound.pc = .socket) :
      Leads outbound { outbound with pc := .connect fd }
  | fails {fd : Int} (pc : outbound.pc = .connect fd) :
      Leads outbound { outbound with pc := .closeFailed fd }
  | connects {fd : Int} (pc : outbound.pc = .connect fd) :
      Leads outbound { outbound with pc := .setNonblock fd }
  | closes {fd : Int} (pc : outbound.pc = .closeFailed fd) :
      Leads outbound { outbound with pc := .retryBackoff }
  | nonblocking {fd : Int} (pc : outbound.pc = .setNonblock fd) :
      Leads outbound { outbound with pc := .ledConnected fd }
  | enters {fd : Int} (pc : outbound.pc = .ledConnected fd) :
      Leads outbound { pc := .session, backoffS := 1 }
  | runs (pc : outbound.pc = .session) : Leads outbound outbound
  | returns (pc : outbound.pc = .session) :
      Leads outbound { outbound with pc := .ledDisconnected }
  | disconnects (pc : outbound.pc = .ledDisconnected) :
      Leads outbound { outbound with pc := .retryBackoff }
  | sleeps (pc : outbound.pc = .retryBackoff) :
      Leads outbound { pc := .waitHost, backoffS := doubledBackoff outbound.backoffS }

end Outbound

namespace Firmware

variable {firmware next : Firmware config} {sys : SysReturn} {action : FirmwareAction config}

theorem stepOutbound_leads (taken : firmware.stepOutbound sys = some next) :
    firmware.outbound.Leads next.outbound := by
  cases pc : firmware.outbound.pc with
  | stopped => simp [stepOutbound, pc] at taken
  | waitHost =>
      simp only [stepOutbound, pc] at taken
      split at taken <;> obtain rfl := Option.some.inj taken
      · exact .waits pc
      · exact .finds pc
  | socket =>
      simp only [stepOutbound, pc] at taken
      split at taken <;> obtain rfl := Option.some.inj taken
      · exact .noSocket pc
      · exact .creates _ pc
  | connect fd =>
      simp only [stepOutbound, pc, Option.some.injEq] at taken
      subst taken
      by_cases failed : sys.ret < 0
      · simp only [if_pos failed]
        exact .fails pc
      · simp only [if_neg failed]
        exact .connects pc
  | session =>
      simp only [stepOutbound, pc] at taken
      split at taken
      · obtain rfl := Option.some.inj taken
        exact .returns pc
      · obtain ⟨pipeline, moved, rfl⟩ := stepSession_cases taken
        exact .runs pc
  | ledConnecting =>
      simp only [stepOutbound, pc, Option.some.injEq] at taken
      exact taken ▸ .shows pc
  | closeFailed fd =>
      simp only [stepOutbound, pc, Option.some.injEq] at taken
      exact taken ▸ .closes pc
  | setNonblock fd =>
      simp only [stepOutbound, pc, Option.some.injEq] at taken
      exact taken ▸ .nonblocking pc
  | ledConnected fd =>
      simp only [stepOutbound, pc, Option.some.injEq] at taken
      exact taken ▸ .enters pc
  | ledDisconnected =>
      simp only [stepOutbound, pc, Option.some.injEq] at taken
      exact taken ▸ .disconnects pc
  | retryBackoff =>
      simp only [stepOutbound, pc, Option.some.injEq] at taken
      exact taken ▸ .sleeps pc

/-- The other threads leave the client thread where it is. -/
theorem step_outbound (taken : firmware.step action = some next)
    (other : ∀ sys, action ≠ .outbound sys) : next.outbound = firmware.outbound := by
  cases action with
  | uart ch sys =>
      obtain rfl := Option.some.inj taken
      rfl
  | dispatcher =>
      obtain ⟨pipeline, _, rfl⟩ := step_dispatcher taken
      rfl
  | server sys => exact (stepServer_others taken).2.1
  | client i sys =>
      obtain ⟨client, pipeline, _, rfl⟩ := stepClient_moves taken
      rfl
  | outbound sys => exact absurd rfl (other sys)

/-! ## The back-off -/

/-- The client thread calls `zsock_socket` in this step. -/
def attempts (firmware : Firmware config) : FirmwareAction config → Nat
  | .outbound _ => if firmware.outbound.pc = .socket then 1 else 0
  | _ => 0

/-- The sleeps of the client thread after an attempt. -/
def sleeps (firmware : Firmware config) : FirmwareAction config → Nat
  | .outbound _ => if firmware.outbound.pc = .retryBackoff then 1 else 0
  | _ => 0

/-- The milliseconds that it sleeps there. -/
def sleptMs (firmware : Firmware config) (action : FirmwareAction config) : Nat :=
  1000 * firmware.outbound.backoffS.toNat * firmware.sleeps action

/-- The client thread has connected, and calls `tcp_nmea_session_run`. -/
def entersSession (firmware : Firmware config) : FirmwareAction config → Bool
  | .outbound _ =>
      match firmware.outbound.pc with
      | .ledConnected _ => true
      | _ => false
  | _ => false

/-- The sleeps since the client last connected. -/
def sleepsSinceConnected (steps : List (Firmware config × FirmwareAction config)) : Nat :=
  steps.foldl (fun sleeps entry =>
    if entry.1.entersSession entry.2 then 0 else sleeps + entry.1.sleeps entry.2) 0

theorem sleepsSinceConnected_concat (steps : List (Firmware config × FirmwareAction config))
    (firmware : Firmware config) (action : FirmwareAction config) :
    sleepsSinceConnected (steps ++ [(firmware, action)]) =
      if firmware.entersSession action then 0
      else sleepsSinceConnected steps + firmware.sleeps action := by
  simp [sleepsSinceConnected]

/-- One step moves the back-off along its schedule. -/
theorem step_backoff {sleeps : Nat}
    (follows : firmware.outbound.backoffS.toNat = backoff 1 30 (sleeps + 1))
    (taken : firmware.step action = some next) :
    next.outbound.backoffS.toNat =
      backoff 1 30 ((if firmware.entersSession action then 0 else
        sleeps + firmware.sleeps action) + 1) := by
  by_cases own : ∃ sys, action = .outbound sys
  · obtain ⟨sys, rfl⟩ := own
    have leads := stepOutbound_leads taken
    generalize next.outbound = outbound at leads
    cases leads with
    | enters pc =>
        simp only [entersSession, pc, if_true, Nat.zero_add, backoff_one]
        rfl
    | sleeps pc =>
        simp only [entersSession, Firmware.sleeps, pc, Bool.false_eq_true, if_false, if_true]
        exact backoff_toNat_doubled (by decide) follows
    | waits pc | finds pc | shows pc | noSocket pc | creates fd pc | fails pc | connects pc
    | closes pc | nonblocking pc | runs pc | returns pc | disconnects pc =>
        simp only [entersSession, Firmware.sleeps, pc, Bool.false_eq_true, if_false,
          reduceCtorEq, Nat.add_zero]
        exact follows
  · have other : ∀ sys, action ≠ .outbound sys := fun sys same => own ⟨sys, same⟩
    rw [step_outbound taken other]
    cases action with
    | outbound sys => exact absurd rfl (other sys)
    | uart ch sys | dispatcher | server sys | client i sys => exact follows

theorem backoff_of_initial (initial : firmware.Initial) :
    firmware.outbound.backoffS.toNat = backoff 1 30 1 := by
  obtain ⟨pipeline, _, rfl⟩ := initial
  rw [backoff_one]
  rfl

/-- The back-off of the client is one second doubled once for each sleep since it last
connected, up to half a minute. -/
theorem outboundBackoff {start finish : Firmware config} {actions : List (FirmwareAction config)}
    (initial : (machine config).init start)
    (run : (machine config).exec start actions = some finish) :
    finish.outbound.backoffS.toNat =
      backoff 1 30 (sleepsSinceConnected ((machine config).trail start actions) + 1) := by
  apply Machine.exec_induction (motive := fun actions finish => finish.outbound.backoffS.toNat =
    backoff 1 30 (sleepsSinceConnected ((machine config).trail start actions) + 1)) _ _ run
  · exact backoff_of_initial initial
  · intro actions firmware action next reached follows taken
    rw [Machine.trail_concat action reached, sleepsSinceConnected_concat]
    exact step_backoff follows taken

/-- The client may make an attempt without having slept for it. -/
def mayAttempt (outbound : Outbound) : Nat :=
  match outbound.pc with
  | .waitHost | .ledConnecting | .socket => 1
  | _ => 0

/-- Between two attempts there is a sleep. -/
theorem step_paid (taken : firmware.step action = some next) :
    firmware.attempts action + mayAttempt next.outbound ≤
      mayAttempt firmware.outbound + firmware.sleeps action := by
  by_cases own : ∃ sys, action = .outbound sys
  · obtain ⟨sys, rfl⟩ := own
    have leads := stepOutbound_leads taken
    generalize next.outbound = outbound at leads
    cases leads with
    | waits pc | finds pc | shows pc | noSocket pc | creates fd pc | fails pc | connects pc
    | closes pc | nonblocking pc | enters pc | runs pc | returns pc | disconnects pc | sleeps pc =>
        simp [attempts, sleeps, mayAttempt, pc]
  · have other : ∀ sys, action ≠ .outbound sys := fun sys same => own ⟨sys, same⟩
    rw [step_outbound taken other]
    cases action with
    | outbound sys => exact absurd rfl (other sys)
    | uart ch sys | dispatcher | server sys | client i sys => simp [attempts]

theorem attempts_le_sleeps {start finish : Firmware config}
    {actions : List (FirmwareAction config)}
    (run : (machine config).exec start actions = some finish) :
    (machine config).total attempts start actions ≤
      (machine config).total sleeps start actions + 1 := by
  have paid := Machine.total_le_of_potential (fun _ => True) (fun _ _ => True) attempts sleeps
    (fun firmware => mayAttempt firmware.outbound) (fun _ _ _ _ _ _ => trivial)
    (fun _ _ _ _ _ taken => step_paid taken) trivial
    (Machine.along_of_forall (fun _ _ => trivial) start actions) run
  have first : mayAttempt start.outbound ≤ 1 := by
    unfold mayAttempt
    split <;> decide
  omega

/-- The back-off is one of the schedule. -/
def Scheduled (firmware : Firmware config) : Prop :=
  ∃ sleeps, firmware.outbound.backoffS.toNat = backoff 1 30 (sleeps + 1)

/-- Every sleep after an attempt takes a second at least. -/
theorem Scheduled.sleeps_le (scheduled : firmware.Scheduled) (action : FirmwareAction config) :
    1000 * firmware.sleeps action ≤ firmware.sleptMs action := by
  obtain ⟨sleeps, follows⟩ := scheduled
  have least : 1 ≤ firmware.outbound.backoffS.toNat :=
    follows ▸ initial_le_backoff (by decide) _
  exact Nat.mul_le_mul_right _ (Nat.mul_le_mul_left 1000 least)

theorem sleeps_le_slept {start finish : Firmware config}
    {actions : List (FirmwareAction config)} (initial : start.Initial)
    (run : (machine config).exec start actions = some finish) :
    1000 * (machine config).total sleeps start actions ≤
      (machine config).total sleptMs start actions := by
  have paid := Machine.total_le_of_potential Scheduled (fun _ _ => True)
    (fun firmware action => 1000 * firmware.sleeps action) sleptMs (fun _ => 0)
    (fun _ _ _ scheduled _ taken => by
      obtain ⟨sleeps, follows⟩ := scheduled
      exact ⟨_, step_backoff follows taken⟩)
    (fun _ action _ scheduled _ _ => by
      rw [Nat.add_zero, Nat.zero_add]
      exact scheduled.sleeps_le action)
    ⟨0, backoff_of_initial initial⟩
    (Machine.along_of_forall (fun _ _ => trivial) start actions) run
  rw [Machine.total_mul, Nat.add_zero, Nat.zero_add] at paid
  exact paid

/-- The client does not connect in this step. -/
def StaysUnconnected (firmware : Firmware config) (action : FirmwareAction config) : Prop :=
  firmware.entersSession action = false

/-- Without a connection the sleeps run through the schedule from its start. -/
theorem slept_of_unconnected {start finish : Firmware config}
    {actions : List (FirmwareAction config)} (initial : start.Initial)
    (unconnected : (machine config).Along StaysUnconnected start actions)
    (run : (machine config).exec start actions = some finish) :
    finish.outbound.backoffS.toNat =
        backoff 1 30 ((machine config).total sleeps start actions + 1) ∧
      (machine config).total sleptMs start actions =
        1000 * backoffTotal 1 30 ((machine config).total sleeps start actions) := by
  apply Machine.along_induction (motive := fun actions finish =>
    finish.outbound.backoffS.toNat =
        backoff 1 30 ((machine config).total sleeps start actions + 1) ∧
      (machine config).total sleptMs start actions =
        1000 * backoffTotal 1 30 ((machine config).total sleeps start actions)) _ _ unconnected run
  · exact ⟨backoff_of_initial initial, rfl⟩
  · intro actions firmware action next reached earlier unconnected taken
    obtain ⟨follows, slept⟩ := earlier
    have moved := step_backoff follows taken
    rw [unconnected, if_neg Bool.false_ne_true] at moved
    rw [Machine.total_concat action reached, Machine.total_concat action reached]
    constructor
    · exact moved
    · rw [slept, sleptMs, follows]
      by_cases asleep : firmware.sleeps action = 0
      · rw [asleep]
        rfl
      · have one : firmware.sleeps action = 1 := by
          unfold sleeps at asleep ⊢
          repeat' split at asleep
          all_goals simp_all
        rw [one, backoffTotal, Nat.mul_one, Nat.mul_add]

/-- Attempts to connect are never in a hurry: in every run there are at most as many as the
client has slept seconds after one, and the first.  While it does not connect at all, the
sleeps between them are of a second, of two, and so on up to half a minute. -/
theorem outboundPaced {start finish : Firmware config} {actions : List (FirmwareAction config)}
    (initial : (machine config).init start)
    (run : (machine config).exec start actions = some finish) :
    1000 * (machine config).total attempts start actions ≤
        (machine config).total sleptMs start actions + 1000 ∧
      ((machine config).Along StaysUnconnected start actions →
        1000 * backoffTotal 1 30 ((machine config).total attempts start actions - 1) ≤
          (machine config).total sleptMs start actions) := by
  have few := attempts_le_sleeps run
  have long := sleeps_le_slept initial run
  constructor
  · omega
  · intro unconnected
    rw [(slept_of_unconnected initial unconnected run).2]
    apply Nat.mul_le_mul_left
    apply backoffTotal_mono
    omega

end Firmware

/-! ## What the status LED shows -/

/-- An update of something else leaves the state of the outbound client alone. -/
theorem SessionShared.observe_connecting (shared : SessionShared config)
    {update : StatusLedPolicyState → StatusLedPolicyState}
    (same : ∀ state, (update state).outboundTcpNmeaClientConnecting =
      state.outboundTcpNmeaClientConnecting) :
    (shared.observe update).statusLed.outboundTcpNmeaClientConnecting =
      shared.statusLed.outboundTcpNmeaClientConnecting := by
  unfold observe
  split
  · exact same shared.statusLed
  · rfl

theorem StatusLed.tcpNmeaSessionEnded_connecting (state : StatusLedPolicyState) :
    (tcpNmeaSessionEnded state).outboundTcpNmeaClientConnecting =
      state.outboundTcpNmeaClientConnecting := by
  unfold tcpNmeaSessionEnded
  split <;> rfl

namespace TcpNmeaSession

variable {shared shared' : SessionShared config} {session session' : TcpNmeaSession config}
  {sys : SysReturn}

/-- A session has nothing to say about the outbound client. -/
theorem step_connecting (taken : session.step shared sys = some (shared', session')) :
    shared'.statusLed.outboundTcpNmeaClientConnecting =
      shared.statusLed.outboundTcpNmeaClientConnecting := by
  cases pc : session.pc with
  | sinkOpen => rcases step_sinkOpen pc taken with ⟨_, _, rfl, _⟩ | ⟨_, rfl, _⟩ <;> rfl
  | takeCheck =>
      obtain ⟨rfl, _⟩ := step_takeCheck pc taken
      rfl
  | takeGet slot => rcases step_takeGet pc taken with ⟨_, _, _, rfl, _⟩ | ⟨rfl, _⟩ <;> rfl
  | send frame sentTotal =>
      obtain ⟨rfl, _⟩ := step_send pc taken
      rfl
  | sinkClose => rcases step_sinkClose pc taken with ⟨_, _, rfl, _⟩ | ⟨_, rfl, _⟩ <;> rfl
  | closeUnopened | incActive | drain | takeCount slot frame | drainAfter | decActive
  | closeFd =>
      simp only [step, pc, Option.some.injEq, Prod.mk.injEq] at taken
      obtain ⟨rfl, _⟩ := taken
      rfl
  | ledStarted | ledSendFailed | ledForwarded =>
      simp only [step, pc, Option.some.injEq, Prod.mk.injEq] at taken
      obtain ⟨rfl, _⟩ := taken
      exact shared.observe_connecting fun _ => rfl
  | ledEnded =>
      simp only [step, pc, Option.some.injEq, Prod.mk.injEq] at taken
      obtain ⟨rfl, _⟩ := taken
      exact shared.observe_connecting StatusLed.tcpNmeaSessionEnded_connecting
  | returned => simp [step, pc] at taken

end TcpNmeaSession

namespace Outbound

/-- The client thread is between its first attempt, or the end of a session, and the start
of its next session.  Only before the first attempt has it not doubled its back-off. -/
def connecting (outbound : Outbound) : Bool :=
  match outbound.pc with
  | .stopped | .session | .ledDisconnected => false
  | .waitHost | .ledConnecting => outbound.backoffS ≠ 1
  | .socket | .connect _ | .closeFailed _ | .setNonblock _ | .ledConnected _ | .retryBackoff => true

end Outbound

namespace Firmware

variable {firmware next : Firmware config} {sys : SysReturn} {action : FirmwareAction config}

/-- `outbound_tcp_nmea_client_connecting` -/
def connectingShown (firmware : Firmware config) : Bool :=
  firmware.pipeline.shared.statusLed.outboundTcpNmeaClientConnecting

theorem stepSession_connecting {owner : Owner config} {pipeline : Pipeline config (Owner config)}
    (moved : firmware.pipeline.stepSession owner sys = some pipeline) :
    pipeline.shared.statusLed.outboundTcpNmeaClientConnecting = firmware.connectingShown := by
  obtain ⟨shared, session, taken, rfl⟩ := Pipeline.stepSession_cases moved
  exact TcpNmeaSession.step_connecting taken

theorem step_connectingShown (taken : firmware.step action = some next)
    (other : ∀ sys, action ≠ .outbound sys) :
    next.connectingShown = firmware.connectingShown := by
  cases action with
  | uart ch sys =>
      obtain rfl := Option.some.inj taken
      have step := firmware.pipeline.stepUart_cases ch sys
      unfold connectingShown
      generalize firmware.pipeline.stepUart ch sys = pipeline at step
      cases step with
      | reads | completes | rejects | accepts | operates | returns => rfl
      | reports => exact SessionShared.observe_connecting _ fun _ => rfl
  | dispatcher =>
      obtain ⟨pipeline, moved, rfl⟩ := step_dispatcher taken
      obtain ⟨bridge, dispatcher, _, rfl⟩ := Pipeline.step_dispatcher_cases moved
      rfl
  | server sys =>
      unfold connectingShown
      rw [(stepServer_others taken).1]
  | client i sys =>
      obtain ⟨client, pipeline, moves, rfl⟩ := stepClient_moves taken
      cases moves with
      | session thread moved => exact stepSession_connecting moved
      | enter | returned | clearFd | closeFd | clearActive | logging => rfl
  | outbound sys => exact absurd rfl (other sys)

theorem observe_connectingShown (enabled : config.statusLedEnable = true) (connecting : Bool) :
    (firmware.observe connecting).connectingShown = connecting := by
  simp [connectingShown, observe, SessionShared.observe, enabled,
    StatusLed.tcpNmeaClientConnecting]

/-- The client thread reports at three positions. -/
theorem stepOutbound_connectingShown (enabled : config.statusLedEnable = true)
    (taken : firmware.stepOutbound sys = some next) :
    next.connectingShown =
      match firmware.outbound.pc with
      | .ledConnecting | .ledDisconnected => true
      | .ledConnected _ => false
      | _ => firmware.connectingShown := by
  cases pc : firmware.outbound.pc with
  | stopped => simp [stepOutbound, pc] at taken
  | waitHost | socket =>
      simp only [stepOutbound, pc] at taken
      split at taken <;> obtain rfl := Option.some.inj taken <;> rfl
  | session =>
      simp only [stepOutbound, pc] at taken
      split at taken
      · obtain rfl := Option.some.inj taken
        rfl
      · obtain ⟨pipeline, moved, rfl⟩ := stepSession_cases taken
        exact stepSession_connecting moved
  | connect fd | closeFailed fd | setNonblock fd | retryBackoff =>
      simp only [stepOutbound, pc, Option.some.injEq] at taken
      exact taken ▸ rfl
  | ledConnecting | ledDisconnected =>
      simp only [stepOutbound, pc, Option.some.injEq] at taken
      exact taken ▸ observe_connectingShown enabled true
  | ledConnected fd =>
      simp only [stepOutbound, pc, Option.some.injEq] at taken
      exact taken ▸ observe_connectingShown enabled false

/-- The LED knows where the client thread is. -/
structure ClientShown (firmware : Firmware config) : Prop where
  scheduled : firmware.Scheduled
  shown : firmware.connectingShown = firmware.outbound.connecting

theorem ClientShown.of_initial (initial : firmware.Initial) : firmware.ClientShown := by
  constructor
  · exact ⟨0, backoff_of_initial initial⟩
  · obtain ⟨_, ⟨_, _, _, rfl⟩, rfl⟩ := initial
    cases config.tcpNmeaClientEnable <;> rfl

theorem ClientShown.step (enabled : config.statusLedEnable = true) (shown : firmware.ClientShown)
    (taken : firmware.step action = some next) : next.ClientShown := by
  obtain ⟨⟨sleeps, follows⟩, shown⟩ := shown
  have moved := step_backoff follows taken
  refine ⟨⟨_, moved⟩, ?_⟩
  by_cases own : ∃ sys, action = .outbound sys
  · obtain ⟨sys, rfl⟩ := own
    rw [stepOutbound_connectingShown enabled taken, shown]
    have leads := stepOutbound_leads taken
    generalize next.outbound = outbound at leads moved
    cases leads with
    | sleeps pc =>
        have again : Outbound.doubledBackoff firmware.outbound.backoffS ≠ 1 := by
          intro one
          simp only [one, entersSession, Firmware.sleeps, pc, Bool.false_eq_true, if_false,
            if_true, backoff] at moved
          have grown := Nat.two_pow_pos sleeps
          simp at moved
          omega
        simp [Outbound.connecting, pc, again]
    | waits pc | finds pc | shows pc | noSocket pc | creates fd pc | fails pc | connects pc
    | closes pc | nonblocking pc | enters pc | runs pc | returns pc | disconnects pc =>
        simp [Outbound.connecting, pc]
  · have other : ∀ sys, action ≠ .outbound sys := fun sys same => own ⟨sys, same⟩
    rw [step_connectingShown taken other, step_outbound taken other]
    exact shown

theorem clientShown (enabled : config.statusLedEnable = true)
    (reachable : (machine config).Reachable firmware) : firmware.ClientShown :=
  reachable.invariant ClientShown (fun _ => ClientShown.of_initial)
    fun _ _ _ shown taken => shown.step enabled taken

/-- Some session has told the LED that it started, and not yet that it ended. -/
def SessionShown (firmware : Firmware config) : Prop :=
  ∃ owner, (firmware.pipeline.sessions owner).pc.countedLed = true

theorem sessionShown_iff (enabled : config.statusLedEnable = true)
    (reachable : (machine config).Reachable firmware) :
    0 < firmware.pipeline.shared.statusLed.activeTcpNmeaSessions ↔ firmware.SessionShown := by
  have counted := sessionsCounted reachable
  constructor
  · intro positive
    rw [UInt16.lt_iff_toNat_lt, counted.led_toNat enabled] at positive
    by_contra none
    have zero : firmware.pipeline.sessionsAt SessionPc.countedLed = 0 :=
      tally_eq_zero fun owner => Bool.eq_false_iff.mpr fun started => none ⟨owner, started⟩
    rw [zero] at positive
    exact Nat.lt_irrefl 0 positive
  · intro ⟨owner, started⟩
    exact counted.led_pos enabled started

/-- The base state of the LED is that of the threads: connected while some session runs,
connecting while the client is between its first attempt and a session, and disconnected
otherwise. -/
theorem statusLedShows (enabled : config.statusLedEnable = true)
    (reachable : (machine config).Reachable firmware) :
    (StatusLed.baseState firmware.pipeline.shared.statusLed = .connected ↔
      firmware.SessionShown) ∧
    (StatusLed.baseState firmware.pipeline.shared.statusLed = .connecting ↔
      ¬ firmware.SessionShown ∧ firmware.outbound.connecting = true) ∧
    (StatusLed.baseState firmware.pipeline.shared.statusLed = .disconnected ↔
      ¬ firmware.SessionShown ∧ firmware.outbound.connecting = false) := by
  have session := sessionShown_iff enabled reachable
  have client := (clientShown enabled reachable).shown
  rw [← session, ← client]
  unfold StatusLed.baseState connectingShown
  cases firmware.pipeline.shared.statusLed.outboundTcpNmeaClientConnecting <;>
    by_cases running : 0 < firmware.pipeline.shared.statusLed.activeTcpNmeaSessions <;>
    simp [running]

/-- The client fails to connect, waits, and fails to get a socket. -/
def connectFails : List (FirmwareAction Config.committed) :=
  [.outbound { ret := 1 }, .outbound {}, .outbound {}, .outbound { ret := -1 }, .outbound {},
    .outbound {}, .outbound { ret := 1 }, .outbound {}, .outbound { ret := -1 }, .outbound {}]

theorem atStart_initial : (machine Config.committed).init atStart := ⟨_, ⟨_, _, _, rfl⟩, rfl⟩

theorem outboundBackoff_connectFails :
    ∃ finish, (machine Config.committed).exec atStart connectFails = some finish ∧
      finish.outbound.backoffS.toNat = backoff 1 30
        (sleepsSinceConnected ((machine Config.committed).trail atStart connectFails) + 1) :=
  ⟨_, rfl, outboundBackoff atStart_initial rfl⟩

theorem connectFails_unconnected :
    (machine Config.committed).Along StaysUnconnected atStart connectFails := by
  unfold StaysUnconnected
  decide

theorem outboundPaced_connectFails :
    ∃ finish, (machine Config.committed).exec atStart connectFails = some finish ∧
      1000 * (machine Config.committed).total attempts atStart connectFails ≤
        (machine Config.committed).total sleptMs atStart connectFails + 1000 ∧
      1000 * backoffTotal 1 30
          ((machine Config.committed).total attempts atStart connectFails - 1) ≤
        (machine Config.committed).total sleptMs atStart connectFails := by
  obtain ⟨finish, run⟩ :
      ∃ finish, (machine Config.committed).exec atStart connectFails = some finish := ⟨_, rfl⟩
  obtain ⟨paced, unconnected⟩ := outboundPaced atStart_initial run
  exact ⟨finish, run, paced, unconnected connectFails_unconnected⟩

theorem statusLedShows_connectFails :
    ∃ finish, (machine Config.committed).exec atStart connectFails = some finish ∧
      (StatusLed.baseState finish.pipeline.shared.statusLed = .connected ↔
        finish.SessionShown) ∧
      (StatusLed.baseState finish.pipeline.shared.statusLed = .connecting ↔
        ¬ finish.SessionShown ∧ finish.outbound.connecting = true) ∧
      (StatusLed.baseState finish.pipeline.shared.statusLed = .disconnected ↔
        ¬ finish.SessionShown ∧ finish.outbound.connecting = false) :=
  ⟨_, rfl, statusLedShows rfl ⟨atStart, connectFails, atStart_initial, rfl⟩⟩

end Firmware

end EspNmeaBridge
