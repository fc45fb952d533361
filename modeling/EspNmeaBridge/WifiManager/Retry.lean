import EspNmeaBridge.Library.Machine
import EspNmeaBridge.WifiManager.Station

/-!
# Connect requests and the retry thread

`wifi_manager_start` on the main thread, the retry thread and the network event
handlers as one machine.  A connect request that `net_mgmt` accepts has exactly
one result, which may be handled at any later point, in particular before
`connect_sta` has resumed from the call and set `sta_connect_requested`.
-/

namespace EspNmeaBridge

open Library

/-- Positions inside `connect_sta`. -/
inductive ConnectPc where
  | enter
  | request
  | returned (ret : Int)
  | powerSave
  deriving DecidableEq, Repr

/-- Where a step of `connect_sta` leads: further inside, or out with a return
value. -/
inductive ConnectNext where
  | inside (pc : ConnectPc)
  | finished (ret : Int)
  deriving DecidableEq, Repr

def enodev : Int := 19

/-- One step of `connect_sta`; `netMgmtRet` is what
`net_mgmt(NET_REQUEST_WIFI_CONNECT)` returns if it is called here. -/
def connectSta (config : Config) (wifi : WifiManager) (netMgmtRet : Int) :
    ConnectPc → WifiManager × ConnectNext
  | .enter =>
      if wifi.staIface = none then (wifi, .finished (-enodev))
      else if config.staSsid = [] then (wifi, .finished 0)
      else (wifi, .inside .request)
  | .request => (wifi, .inside (.returned netMgmtRet))
  | .returned ret =>
      if ret ≠ 0 then ({ wifi with staConnectRequested := false }, .finished ret)
      else ({ wifi with staConnectRequested := true }, .inside .powerSave)
  | .powerSave => (wifi, .finished 0)

/-- Positions inside `wifi_manager_start`, after the callbacks are registered. -/
inductive MainPc where
  | ifaces
  | accessPoint
  | disconnect
  | settle
  | connect (pc : ConnectPc)
  | enableRetry
  | finished
  deriving DecidableEq, Repr

/-- Positions inside `sta_retry_thread`. -/
inductive RetryPc where
  | enter
  | waitEnabled
  | check
  | idle
  | backoff
  | recheck
  | disconnect
  | settle
  | connect (pc : ConnectPc)
  | doubleBackoff
  | exited
  deriving DecidableEq, Repr

/-- The station's variables, the threads' positions, and the number of accepted
connect requests whose result has not been handled.  `wifiSta` is what
`net_if_get_wifi_sta` returns. -/
structure StationThreads where
  station : Station
  wifiSta : Option NetIf
  unhandled : Nat
  main : MainPc
  retry : RetryPc
  deriving DecidableEq, Repr

/-- Steps of the parties.  `event` is any handler run, poll or table update that
is not the result of an accepted request, such as a lost link. -/
inductive StationAction where
  | main (netMgmtRet : Int)
  | retry (netMgmtRet : Int)
  | result (event : WifiMgmtEvent)
  | event (event : StationEvent)
  deriving DecidableEq, Repr

namespace StationThreads

variable (config : Config)

/-- A step of `connect_sta` in the shared state.  The request is accepted when
`net_mgmt` returns zero. -/
def stepConnect (threads : StationThreads) (netMgmtRet : Int) (pc : ConnectPc) :
    StationThreads × ConnectNext :=
  let (manager, next) := connectSta config threads.station.manager netMgmtRet pc
  let accepted := if pc = .request ∧ netMgmtRet = 0 then 1 else 0
  ({ threads with
      station := { threads.station with manager }
      unhandled := threads.unhandled + accepted }, next)

/-- One step of `wifi_manager_start`.  MAC rotation and the access point set-up
touch none of the shared variables, and the return value does not either. -/
def stepMain (threads : StationThreads) (netMgmtRet : Int) : Option StationThreads :=
  match threads.main with
  | .ifaces =>
      some { threads with
        station.manager.staIface := threads.wifiSta
        main := .accessPoint }
  | .accessPoint =>
      some { threads with main := if config.staEnable then .disconnect else .enableRetry }
  | .disconnect => some { threads with main := .settle }
  | .settle => some { threads with main := .connect .enter }
  | .connect pc =>
      match threads.stepConnect config netMgmtRet pc with
      | (threads, .inside pc) => some { threads with main := .connect pc }
      | (threads, .finished _) => some { threads with main := .enableRetry }
  | .enableRetry =>
      some { threads with station.manager.staRetryEnabled := true, main := .finished }
  | .finished => none

/-- `sta_connected || sta_connect_requested`, the loop's reason to idle. -/
def busy (threads : StationThreads) : Bool :=
  threads.station.manager.staConnected || threads.station.manager.staConnectRequested

/-- `MIN(sta_retry_backoff_s * 2U, 60U)` -/
def doubledBackoff (backoffS : UInt32) : UInt32 := min (backoffS * 2) 60

/-- One step of `sta_retry_thread`; sleeps are positions of their own. -/
def stepRetry (threads : StationThreads) (netMgmtRet : Int) : Option StationThreads :=
  match threads.retry with
  | .enter =>
      some { threads with
        retry := if !config.staEnable || config.staSsid.isEmpty then .exited else .waitEnabled }
  | .waitEnabled =>
      if threads.station.manager.staRetryEnabled then some { threads with retry := .check }
      else some threads
  | .check => some { threads with retry := if threads.busy then .idle else .backoff }
  | .idle => some { threads with retry := .check }
  | .backoff => some { threads with retry := .recheck }
  | .recheck => some { threads with retry := if threads.busy then .check else .disconnect }
  | .disconnect => some { threads with retry := .settle }
  | .settle => some { threads with retry := .connect .enter }
  | .connect pc =>
      match threads.stepConnect config netMgmtRet pc with
      | (threads, .inside pc) => some { threads with retry := .connect pc }
      | (threads, .finished _) => some { threads with retry := .doubleBackoff }
  | .doubleBackoff =>
      some { threads with
        station.manager.staRetryBackoffS :=
          doubledBackoff threads.station.manager.staRetryBackoffS
        retry := .check }
  | .exited => none

/-- The result of an accepted request is a connect or a disconnect result for the
station's interface. -/
def stepResult (threads : StationThreads) (event : WifiMgmtEvent) : Option StationThreads :=
  match threads.unhandled, threads.station.manager.staIface, event with
  | unhandled + 1, some iface, .connectResult _ | unhandled + 1, some iface, .disconnectResult =>
      some { threads with station := threads.station.step (.wifi event iface), unhandled }
  | _, _, _ => none

def step (threads : StationThreads) : StationAction → Option StationThreads
  | .main netMgmtRet => threads.stepMain config netMgmtRet
  | .retry netMgmtRet => threads.stepRetry config netMgmtRet
  | .result event => threads.stepResult event
  | .event event => some { threads with station := threads.station.step event }

/-- The module at boot: every variable has its static value. -/
def Initial (threads : StationThreads) : Prop :=
  threads.station.manager = {} ∧ threads.unhandled = 0 ∧
    threads.main = .ifaces ∧ threads.retry = .enter

/-- The station's threads and handlers as a machine. -/
def machine : Machine StationThreads StationAction where
  init := Initial
  step := step config

/-- The retry thread is about to evaluate a loop condition. -/
def Evaluates (threads : StationThreads) : Prop :=
  threads.retry = .check ∨ threads.retry = .recheck

/-- A retry thread at a loop condition does not take a request for pending when
none is. -/
def NotStuck (threads : StationThreads) : Prop :=
  threads.Evaluates → threads.station.manager.staConnected = false → threads.unhandled = 0 →
    threads.station.manager.staConnectRequested = false

/-- `connect_sta` sets `sta_connect_requested` in this step. -/
def SetsRequested (threads : StationThreads) : StationAction → Prop
  | .main _ => threads.main = .connect (.returned 0)
  | .retry _ => threads.retry = .connect (.returned 0)
  | _ => False

/-- When `connect_sta` sets the flag, the result of an accepted request is still
to come, or the station is connected. -/
def SetsInTime (threads : StationThreads) (action : StationAction) : Prop :=
  threads.SetsRequested action → 0 < threads.unhandled ∨
    threads.station.manager.staConnected = true

/-- A request is taken for pending only while one is, or while the station is
connected. -/
def RequestBacked (threads : StationThreads) : Prop :=
  threads.station.manager.staConnectRequested = true →
    0 < threads.unhandled ∨ threads.station.manager.staConnected = true

section Steps

variable {config} {threads next : StationThreads}

/-- What a step of `connect_sta` does to the flags and the requests. -/
theorem stepConnect_effect (threads : StationThreads) (config : Config) (netMgmtRet : Int)
    (pc : ConnectPc) :
    (threads.stepConnect config netMgmtRet pc).1.station.manager.staConnected =
        threads.station.manager.staConnected ∧
      threads.unhandled ≤ (threads.stepConnect config netMgmtRet pc).1.unhandled ∧
      ((threads.stepConnect config netMgmtRet pc).1.station.manager.staConnectRequested = true →
        threads.station.manager.staConnectRequested = true ∨ pc = .returned 0) := by
  cases pc with
  | enter =>
      simp only [stepConnect, connectSta]
      repeat' split
      all_goals simp
  | request => simp [stepConnect, connectSta]
  | returned ret =>
      by_cases accepted : ret = 0
      · simp [stepConnect, connectSta, accepted]
      · simp [stepConnect, connectSta, accepted]
  | powerSave => simp [stepConnect, connectSta]

/-- A step of `connect_sta` that sets the flag in time keeps requests backed. -/
theorem RequestBacked.stepConnect (backed : threads.RequestBacked) {pc : ConnectPc}
    (inTime : pc = .returned 0 → 0 < threads.unhandled ∨
      threads.station.manager.staConnected = true) (netMgmtRet : Int) :
    (threads.stepConnect config netMgmtRet pc).1.RequestBacked := by
  obtain ⟨connected, more, requested⟩ := threads.stepConnect_effect config netMgmtRet pc
  intro flag
  rw [connected]
  have cause : 0 < threads.unhandled ∨ threads.station.manager.staConnected = true :=
    (requested flag).elim backed inTime
  exact cause.imp_left fun some => Nat.lt_of_lt_of_le some more

theorem RequestBacked.stepMain (backed : threads.RequestBacked) {netMgmtRet : Int}
    (inTime : threads.SetsInTime (.main netMgmtRet))
    (taken : threads.stepMain config netMgmtRet = some next) : next.RequestBacked := by
  cases main : threads.main with
  | connect pc =>
      have moved : (threads.stepConnect config netMgmtRet pc).1.RequestBacked :=
        backed.stepConnect (fun ready => inTime (by rw [SetsRequested, main, ready])) netMgmtRet
      simp only [StationThreads.stepMain, main] at taken
      split at taken <;> rename_i equal
      all_goals
        rw [equal] at moved
        obtain rfl := Option.some.inj taken
        exact moved
  | finished => simp [StationThreads.stepMain, main] at taken
  | ifaces | accessPoint | disconnect | settle | enableRetry =>
      simp only [StationThreads.stepMain, main, Option.some.injEq] at taken
      subst taken
      exact backed

theorem RequestBacked.stepRetry (backed : threads.RequestBacked) {netMgmtRet : Int}
    (inTime : threads.SetsInTime (.retry netMgmtRet))
    (taken : threads.stepRetry config netMgmtRet = some next) : next.RequestBacked := by
  cases retry : threads.retry with
  | connect pc =>
      have moved : (threads.stepConnect config netMgmtRet pc).1.RequestBacked :=
        backed.stepConnect (fun ready => inTime (by rw [SetsRequested, retry, ready])) netMgmtRet
      simp only [StationThreads.stepRetry, retry] at taken
      split at taken <;> rename_i equal
      all_goals
        rw [equal] at moved
        obtain rfl := Option.some.inj taken
        exact moved
  | exited => simp [StationThreads.stepRetry, retry] at taken
  | waitEnabled =>
      simp only [StationThreads.stepRetry, retry] at taken
      split at taken <;> obtain rfl := Option.some.inj taken <;> exact backed
  | enter | check | idle | backoff | recheck | disconnect | settle | doubleBackoff =>
      simp only [StationThreads.stepRetry, retry, Option.some.injEq] at taken
      subst taken
      exact backed

/-- A handled result clears the flag. -/
theorem RequestBacked.stepResult {event : WifiMgmtEvent}
    (taken : threads.stepResult event = some next) : next.RequestBacked := by
  have cleared : next.station.manager.staConnectRequested = false := by
    simp only [StationThreads.stepResult] at taken
    split at taken
    · rename_i status _ own
      obtain rfl := Option.some.inj taken
      cases failed : WifiManager.connectFailed status <;>
        simp [Station.step_staConnectRequested, StationEvent.staLink, own, failed]
    · rename_i own
      obtain rfl := Option.some.inj taken
      simp [Station.step_staConnectRequested, StationEvent.staLink, own]
    · simp at taken
  intro flag
  rw [cleared] at flag
  contradiction

theorem RequestBacked.event (backed : threads.RequestBacked) (event : StationEvent) :
    RequestBacked { threads with station := threads.station.step event } := by
  intro flag
  simp only [Station.step_staConnectRequested, Bool.and_eq_true, Option.isNone_iff_eq_none] at flag
  have := backed flag.1
  simp only [Station.step_staConnected, flag.2, Bool.or_eq_true]
  exact this.imp_right Or.inl

/-- One step of any party. -/
theorem RequestBacked.step {action : StationAction} (backed : threads.RequestBacked)
    (inTime : threads.SetsInTime action) (taken : threads.step config action = some next) :
    next.RequestBacked := by
  cases action with
  | main netMgmtRet => exact backed.stepMain inTime taken
  | retry netMgmtRet => exact backed.stepRetry inTime taken
  | result event => exact RequestBacked.stepResult taken
  | event event =>
      obtain rfl := Option.some.inj taken
      exact backed.event event

end Steps

theorem Initial.requestBacked {threads : StationThreads} (initial : threads.Initial) :
    threads.RequestBacked := by
  intro flag
  simp [initial.1] at flag

theorem RequestBacked.notStuck {threads : StationThreads} (backed : threads.RequestBacked) :
    threads.NotStuck := by
  intro _ disconnected noneUnhandled
  apply Bool.eq_false_iff.mpr
  intro flag
  rcases backed flag with waiting | connected
  · omega
  · rw [disconnected] at connected
    contradiction

instance decidableSetsRequested (threads : StationThreads) :
    (action : StationAction) → Decidable (threads.SetsRequested action)
  | .main _ => inferInstanceAs (Decidable (threads.main = .connect (.returned 0)))
  | .retry _ => inferInstanceAs (Decidable (threads.retry = .connect (.returned 0)))
  | .result _ | .event _ => inferInstanceAs (Decidable False)

instance decidableSetsInTime (threads : StationThreads) (action : StationAction) :
    Decidable (threads.SetsInTime action) :=
  inferInstanceAs (Decidable (_ → _))

/-- A run in which `connect_sta` sets the flag only while the request's result is
still to come (or once the station is connected) never leaves the retry thread
waiting for nothing. -/
theorem notStuck_of_setsInTime (config : Config) {start finish : StationThreads}
    {actions : List StationAction} (initial : (machine config).init start)
    (inTime : (machine config).Along SetsInTime start actions)
    (run : (machine config).exec start actions = some finish) : finish.NotStuck := by
  have backed : finish.RequestBacked :=
    Machine.invariant_of_along RequestBacked SetsInTime
      (fun _ _ _ backed inTime taken => RequestBacked.step backed inTime taken)
      (Initial.requestBacked initial) inTime run
  exact backed.notStuck

/-- A station with a network name. -/
def namedStation : Config := { Config.committed with staSsid := [120] }

def boot : StationThreads where
  station := Station.start none none
  wifiSta := some ⟨1⟩
  unhandled := 0
  main := .ifaces
  retry := .enter

/-- The main thread up to the point where its connect request is accepted. -/
def requestAccepted : List StationAction :=
  [.main 0, .main 0, .main 0, .main 0, .main 0, .main 0]

/-- The flag is set before the access point turns the request down. -/
def resultAfterFlag : List StationAction :=
  requestAccepted ++ [.main 0, .main 0, .main 0, .retry 0, .retry 0,
    .result (.connectResult (some 1))]

theorem notStuck_resultAfterFlag :
    ∃ finish, (machine namedStation).exec boot resultAfterFlag = some finish ∧
      finish.Evaluates ∧ finish.NotStuck := by
  refine ⟨_, rfl, Or.inl rfl, ?_⟩
  have inTime : (machine namedStation).Along SetsInTime boot resultAfterFlag := by decide
  exact notStuck_of_setsInTime namedStation ⟨rfl, rfl, rfl, rfl⟩ inTime rfl

/-- The access point turns the request down before `connect_sta` resumes. -/
def resultBeforeFlag : List StationAction :=
  requestAccepted ++ [.result (.connectResult (some 1)), .main 0, .main 0, .main 0,
    .retry 0, .retry 0]

/-- The handler clears the flag first and `connect_sta` sets it afterwards: the
retry thread waits for a result that has already been handled. -/
theorem retry_stuck :
    ¬ ∀ config threads, (machine config).Reachable threads → threads.NotStuck := by
  intro never
  have stuck := never namedStation _ ⟨boot, resultBeforeFlag, ⟨rfl, rfl, rfl, rfl⟩, rfl⟩
  exact absurd (stuck (Or.inl rfl) rfl rfl) (by decide)

end StationThreads

end EspNmeaBridge
