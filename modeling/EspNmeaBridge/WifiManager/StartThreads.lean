import EspNmeaBridge.WifiManager.Retry
import EspNmeaBridge.WifiManager.Startup

/-!
# Start-up among the other threads

`wifi_manager_start` call by call on the main thread, next to the retry thread and the
event handlers.  The machine of `StationThreads`, whose main thread has a few named
positions, matches every run of it.  The retry thread stays out of `connect_sta`, whose
request buffer is static, until `wifi_manager_start` has returned from it.
-/

namespace EspNmeaBridge

open Library

/-- The shared variables and the position of each thread; that of the main thread is what is
left of its script. -/
structure StartThreads where
  station : Station
  wifiSta : Option NetIf
  unhandled : Nat
  retry : RetryPc
  main : WifiScript Int

/-- A call of the main thread is made and answered, or another party takes a step. -/
inductive StartAction where
  | main (made : Answered WifiCall.Answer)
  | retry (netMgmtRet : Int)
  | result (event : WifiMgmtEvent)
  | event (event : StationEvent)

namespace StartThreads

open WifiCall

/-- The threads with the main thread at a named position. -/
def withMain (start : StartThreads) (main : MainPc) : StationThreads where
  station := start.station
  wifiSta := start.wifiSta
  unhandled := start.unhandled
  main := main
  retry := start.retry

/-- What a step of another party leaves of `withMain`. -/
def others (start : StartThreads) (threads : StationThreads) : StartThreads where
  station := threads.station
  wifiSta := start.wifiSta
  unhandled := threads.unhandled
  retry := threads.retry
  main := start.main

/-- What a call of the main thread changes. -/
def effect (start : StartThreads) : Answered WifiCall.Answer → Option StartThreads
  | ⟨netIfGetWifiSta, iface⟩ =>
      if iface = start.wifiSta then some { start with station.manager.staIface := iface } else none
  | ⟨wifiConnect _ _, ret⟩ =>
      some { start with unhandled := start.unhandled + if ret = 0 then 1 else 0 }
  | ⟨setStaConnectRequested value, _⟩ =>
      some { start with station.manager.staConnectRequested := value }
  | ⟨setStaRetryEnabled, _⟩ => some { start with station.manager.staRetryEnabled := true }
  | _ => some start

def step (config : Config) (start : StartThreads) : StartAction → Option StartThreads
  | .main made =>
      (start.main.step made).bind fun main =>
        (start.effect made).map fun next => { next with main }
  | .retry netMgmtRet =>
      ((start.withMain .finished).stepRetry config netMgmtRet).map start.others
  | .result event => ((start.withMain .finished).stepResult event).map start.others
  | .event event => some { start with station := start.station.step event }

section Model

variable {config : Config} (options : WifiOptions config)
  (netAddrPton : List Byte → Option NetInAddr)

def Initial (start : StartThreads) : Prop :=
  start.station.manager = {} ∧ start.unhandled = 0 ∧ start.retry = .enter ∧
    start.main = WifiScript.wifiManagerStart options netAddrPton

def machine : Machine StartThreads StartAction where
  init := Initial options netAddrPton
  step := step config

end Model

/-- A named position of the main thread, and the interface it has been given. -/
structure Position where
  pc : MainPc
  staIface : Option NetIf

/-- The interface is the one of the shared variables, once it has been looked up. -/
def Position.Holds (position : Position) (start : StartThreads) : Prop :=
  position.pc ≠ .ifaces →
    start.station.manager.staIface = position.staIface ∧ start.wifiSta = position.staIface

/-- The positions pass from one to the other without a change of the shared variables. -/
def Passes (config : Config) (position : Position) (pc : MainPc) : Prop :=
  ∀ start : StartThreads, position.Holds start →
    ∃ rets : List Int, (StationThreads.machine config).exec (start.withMain position.pc)
      (rets.map .main) = some (start.withMain pc)

/-- What a call changes is changed between two positions. -/
def Moves (config : Config) (position : Position) (made : Answered WifiCall.Answer)
    (position' : Position) : Prop :=
  ∀ start next : StartThreads, position.Holds start → start.effect made = some next →
    position'.Holds next ∧
      ∃ rets : List Int, (StationThreads.machine config).exec (start.withMain position.pc)
        (rets.map .main) = some (next.withMain position'.pc)

/-- Calls that change none of the shared variables. -/
def quiet : WifiCall → Prop
  | netIfGetWifiSta | wifiConnect _ _ | setStaConnectRequested _ | setStaRetryEnabled => False
  | _ => True

theorem effect_quiet (start : StartThreads) {made : Answered WifiCall.Answer}
    (still : quiet made.request) : start.effect made = some start := by
  obtain ⟨request, answer⟩ := made
  cases request with
  | netIfGetWifiSta | wifiConnect iface params | setStaConnectRequested value
  | setStaRetryEnabled => exact still.elim
  | _ => rfl

section Positions

variable {config : Config} {position position' : Position} {pc : MainPc}
  {made : Answered WifiCall.Answer}

theorem moves_quiet (still : quiet made.request) : Moves config position made position := by
  intro start next holds changes
  rw [effect_quiet start still] at changes
  cases changes
  exact ⟨holds, [], rfl⟩

theorem Moves.after (passes : Passes config position pc) (known : position.pc ≠ .ifaces)
    (moves : Moves config ⟨pc, position.staIface⟩ made position') :
    Moves config position made position' := by
  intro start next holds changes
  obtain ⟨first, passed⟩ := passes start holds
  obtain ⟨holds', second, moved⟩ := moves start next (fun _ => holds known) changes
  refine ⟨holds', first ++ second, ?_⟩
  rw [List.map_append, Machine.exec_append, passed]
  exact moved

/-- Steps of the main thread towards `connect_sta`. -/
theorem passes_settle {staIface : Option NetIf} (enable : config.staEnable = true) :
    Passes config ⟨.accessPoint, staIface⟩ .settle := by
  intro start _
  exact ⟨[0, 0], by simp [StationThreads.machine, StationThreads.step, StationThreads.stepMain,
    withMain, enable]⟩

theorem passes_disabled {staIface : Option NetIf} (disable : config.staEnable = false) :
    Passes config ⟨.accessPoint, staIface⟩ .enableRetry := by
  intro start _
  exact ⟨[0], by simp [StationThreads.machine, StationThreads.step, StationThreads.stepMain,
    withMain, disable]⟩

/-- `connect_sta` returns at once. -/
theorem passes_skip {staIface : Option NetIf} (skips : staIface = none ∨ config.staSsid = []) :
    Passes config ⟨.connect .enter, staIface⟩ .enableRetry := by
  intro start holds
  have known : start.station.manager.staIface = staIface := (holds nofun).1
  refine ⟨[0], ?_⟩
  by_cases missing : staIface = none
  · simp [StationThreads.machine, StationThreads.step, StationThreads.stepMain, withMain,
      StationThreads.stepConnect, connectSta, known, missing]
  · simp [StationThreads.machine, StationThreads.step, StationThreads.stepMain, withMain,
      StationThreads.stepConnect, connectSta, known, missing, skips.resolve_left missing]

theorem passes_request {sta : NetIf} (named : config.staSsid ≠ []) :
    Passes config ⟨.connect .enter, some sta⟩ (.connect .request) := by
  intro start holds
  have known : start.station.manager.staIface = some sta := (holds nofun).1
  exact ⟨[0], by simp [StationThreads.machine, StationThreads.step, StationThreads.stepMain,
    withMain, StationThreads.stepConnect, connectSta, known, named]⟩

theorem moves_staIface (staIface staIface' : Option NetIf) :
    Moves config ⟨.ifaces, staIface'⟩ ⟨netIfGetWifiSta, staIface⟩ ⟨.accessPoint, staIface⟩ := by
  intro start next _ changes
  simp only [effect] at changes
  split at changes
  · rename_i same
    cases changes
    subst same
    exact ⟨fun _ => ⟨rfl, rfl⟩, [0], rfl⟩
  · contradiction

theorem moves_settle {staIface : Option NetIf} :
    Moves config ⟨.settle, staIface⟩ ⟨kSleep 500, ()⟩ ⟨.connect .enter, staIface⟩ := by
  intro start next holds changes
  cases changes
  exact ⟨fun _ => holds nofun, [0], rfl⟩

theorem moves_disconnect {sta : NetIf} (ret : Int) (enable : config.staEnable = true) :
    Moves config ⟨.accessPoint, some sta⟩ ⟨wifiDisconnect sta, ret⟩ ⟨.settle, some sta⟩ := by
  intro start next holds changes
  cases changes
  exact ⟨fun _ => holds nofun, passes_settle enable start holds⟩

theorem moves_connect {sta : NetIf} {params : WifiConnectReqParams} (ret : Int) :
    Moves config ⟨.connect .request, some sta⟩ ⟨wifiConnect sta params, ret⟩
      ⟨.connect (.returned ret), some sta⟩ := by
  intro start next holds changes
  cases changes
  refine ⟨fun _ => holds nofun, [ret], ?_⟩
  simp [StationThreads.machine, StationThreads.step, StationThreads.stepMain,
    withMain, StationThreads.stepConnect, connectSta]

theorem moves_failed {sta : NetIf} {ret : Int} (failed : ret ≠ 0) :
    Moves config ⟨.connect (.returned ret), some sta⟩ ⟨setStaConnectRequested false, ()⟩
      ⟨.enableRetry, some sta⟩ := by
  intro start next holds changes
  cases changes
  refine ⟨fun _ => holds nofun, [0], ?_⟩
  simp [StationThreads.machine, StationThreads.step, StationThreads.stepMain,
    withMain, StationThreads.stepConnect, connectSta, failed]

theorem moves_requested {sta : NetIf} :
    Moves config ⟨.connect (.returned 0), some sta⟩ ⟨setStaConnectRequested true, ()⟩
      ⟨.connect .powerSave, some sta⟩ := by
  intro start next holds changes
  cases changes
  exact ⟨fun _ => holds nofun, [0], rfl⟩

theorem moves_powerSave {sta : NetIf} (ret : Int) :
    Moves config ⟨.connect .powerSave, some sta⟩ ⟨wifiPs sta, ret⟩ ⟨.enableRetry, some sta⟩ := by
  intro start next holds changes
  cases changes
  exact ⟨fun _ => holds nofun, [0], rfl⟩

theorem moves_enableRetry {staIface : Option NetIf} :
    Moves config ⟨.enableRetry, staIface⟩ ⟨setStaRetryEnabled, ()⟩ ⟨.finished, staIface⟩ := by
  intro start next holds changes
  cases changes
  exact ⟨fun _ => holds nofun, [0], rfl⟩

end Positions

end StartThreads

namespace WifiScript

open Script WifiCall StartThreads

variable {config : Config} (options : WifiOptions config)
  (netAddrPton : List Byte → Option NetInAddr)

theorem makes_changeMac (sta : NetIf) (address : List Byte) :
    (changeMac sta address).Makes quiet := by
  simp only [changeMac, perform_bind]
  refine ⟨trivial, fun wasUp => ?_⟩
  cases wasUp with
  | false => exact ⟨trivial, fun _ => trivial⟩
  | true =>
      refine ⟨trivial, fun ret => ?_⟩
      dsimp only
      split
      · exact makes_done ()
      · exact ⟨trivial, fun _ => ⟨trivial, fun _ => trivial⟩⟩

theorem makes_rotateStaMac (staIface : Option NetIf) :
    (rotateStaMac options staIface).Makes quiet := by
  cases staIface with
  | none => exact makes_done ()
  | some sta =>
      simp only [rotateStaMac, perform_bind]
      split
      · exact makes_done ()
      refine ⟨trivial, fun ret => ?_⟩
      dsimp only
      split
      · exact makes_done ()
      refine ⟨trivial, fun linkAddr => ?_⟩
      dsimp only
      split
      · exact ⟨trivial, fun random => makes_changeMac sta _⟩
      · exact makes_done ()

theorem makes_startDhcpServer (ap : NetIf) :
    (startDhcpServer options netAddrPton ap).Makes quiet := by
  simp only [startDhcpServer, perform_bind]
  split
  · exact makes_done _
  · exact makes_done _
  refine ⟨trivial, fun _ => ⟨trivial, fun _ => ⟨trivial, fun set => ?_⟩⟩⟩
  cases set with
  | false => exact makes_done _
  | true =>
      refine ⟨trivial, fun ret => ?_⟩
      dsimp only
      split <;> exact makes_done _

theorem makes_startAp (apIface : Option NetIf) :
    (startAp options netAddrPton apIface).Makes quiet := by
  rw [startAp]
  split
  · cases apIface with
    | none => exact makes_done _
    | some ap =>
        apply (makes_startDhcpServer options netAddrPton ap).bind
        intro ret
        split
        · exact makes_done ret
        · simp only [perform_bind]
          refine ⟨trivial, fun ret => ?_⟩
          dsimp only
          split <;> exact makes_done _
  · exact makes_done _

/-- The main thread is about to let the retry thread go. -/
def AboutToRelease (config : Config) (position : Position) : Prop :=
  position.pc ≠ .ifaces ∧ Passes config position .enableRetry

theorem aboutToRelease_enableRetry (staIface : Option NetIf) :
    AboutToRelease config ⟨.enableRetry, staIface⟩ :=
  ⟨nofun, fun _ _ => ⟨[], rfl⟩⟩

theorem moves_connectSta (staIface : Option NetIf) :
    (connectSta options staIface).Conforms (Moves config)
      (fun _ => AboutToRelease config) ⟨.connect .enter, staIface⟩ := by
  cases staIface with
  | none => exact ⟨by simp, passes_skip (.inl rfl)⟩
  | some sta =>
      simp only [connectSta]
      split
      · rename_i unnamed
        exact ⟨by simp, passes_skip (.inr unnamed)⟩
      rename_i named
      rw [perform_bind]
      intro ret
      refine ⟨_, (moves_connect ret).after (passes_request named) (by simp), ?_⟩
      dsimp only
      by_cases accepted : ret = 0
      · subst accepted
        exact fun _ => ⟨_, moves_requested, fun ret => ⟨_, moves_powerSave ret,
          aboutToRelease_enableRetry _⟩⟩
      · rw [if_pos accepted]
        exact fun _ => ⟨_, moves_failed accepted, aboutToRelease_enableRetry _⟩

theorem moves_startSta (staIface : Option NetIf) (ret : Int) :
    (startSta options staIface ret).Conforms (Moves config)
      (fun _ => AboutToRelease config) ⟨.accessPoint, staIface⟩ := by
  have connects : ∀ staIface, (connectSta options staIface >>= fun staRet =>
      (pure (if staRet ≠ 0 ∧ ret = 0 then staRet else ret) : WifiScript Int)).Conforms
        (Moves config) (fun _ => AboutToRelease config) ⟨.connect .enter, staIface⟩ := by
    intro staIface
    apply (moves_connectSta options staIface).bind
    intro staRet position about
    exact about
  rw [startSta]
  cases enable : config.staEnable with
  | false => exact ⟨by simp, passes_disabled enable⟩
  | true =>
      rw [if_neg (by simp)]
      cases staIface with
      | none =>
          intro _
          refine ⟨_, moves_settle.after (passes_settle enable) (by simp), ?_⟩
          exact connects none
      | some sta =>
          intro disconnectRet
          refine ⟨_, moves_disconnect disconnectRet enable, ?_⟩
          intro _
          refine ⟨_, moves_settle, ?_⟩
          exact connects (some sta)

/-- `wifi_manager_start` is matched by the positions of the main thread. -/
theorem moves_wifiManagerStart (staIface : Option NetIf) :
    (wifiManagerStart options netAddrPton).Conforms (Moves config)
      (fun _ position => position.pc = .finished) ⟨.ifaces, staIface⟩ := by
  simp only [wifiManagerStart, perform_bind]
  intro _
  refine ⟨_, moves_quiet trivial, ?_⟩
  intro _
  refine ⟨_, moves_quiet trivial, ?_⟩
  intro apIface
  refine ⟨_, moves_quiet trivial, ?_⟩
  intro staIface'
  refine ⟨_, moves_staIface staIface' staIface, ?_⟩
  apply (Conforms.of_makes (makes_rotateStaMac options staIface') fun _ => moves_quiet).bind
  rintro _ position rfl
  apply (Conforms.of_makes (makes_startAp options netAddrPton apIface) fun _ => moves_quiet).bind
  rintro ret position rfl
  apply (moves_startSta options staIface' ret).bind
  rintro startRet position ⟨later, passes⟩
  intro _
  exact ⟨_, moves_enableRetry.after passes later, rfl⟩

end WifiScript

/-- No handler looks at `sta_retry_enabled`. -/
theorem Station.step_staRetryEnabled (station : Station) (event : StationEvent) :
    (station.step event).manager.staRetryEnabled = station.manager.staRetryEnabled := by
  cases event with
  | wifi event iface =>
      cases event <;> simp only [step, WifiManager.wifiEventHandler]
      all_goals repeat' split
      all_goals simp
  | ipv4 event iface =>
      cases event <;> simp only [step, WifiManager.ipv4EventHandler]
      case dhcpStop => split <;> rfl
      all_goals simp
  | poll =>
      simp only [step, WifiManager.staReady]
      split <;> simp
  | setTable ipv4 => rfl

namespace StationThreads

variable {config : Config} {threads next : StationThreads}

theorem stepConnect_keeps (threads : StationThreads) (config : Config) (netMgmtRet : Int)
    (pc : ConnectPc) :
    (threads.stepConnect config netMgmtRet pc).1.station.manager.staIface =
        threads.station.manager.staIface ∧
      (threads.stepConnect config netMgmtRet pc).1.station.manager.staRetryEnabled =
        threads.station.manager.staRetryEnabled := by
  cases pc with
  | enter =>
      simp only [stepConnect, connectSta]
      repeat' split
      all_goals exact ⟨rfl, rfl⟩
  | returned ret =>
      simp only [stepConnect, connectSta]
      split <;> exact ⟨rfl, rfl⟩
  | request | powerSave => exact ⟨rfl, rfl⟩

/-- The retry thread does not look at the main thread's position. -/
theorem stepRetry_withMain (threads : StationThreads) (main : MainPc) (netMgmtRet : Int) :
    StationThreads.stepRetry config { threads with main } netMgmtRet =
      (threads.stepRetry config netMgmtRet).map fun next => { next with main } := by
  cases retry : threads.retry with
  | connect pc =>
      simp only [stepRetry, retry, stepConnect]
      cases connectSta config threads.station.manager netMgmtRet pc with
      | mk manager next => cases next <;> rfl
  | waitEnabled =>
      simp only [stepRetry, retry]
      split
      · rfl
      · simp [retry]
  | exited => simp [stepRetry, retry]
  | enter | check | idle | backoff | recheck | disconnect | settle | doubleBackoff =>
      simp [stepRetry, retry, busy]

/-- What the retry thread leaves alone. -/
structure Keeps (threads next : StationThreads) : Prop where
  staIface : next.station.manager.staIface = threads.station.manager.staIface
  staRetryEnabled :
    next.station.manager.staRetryEnabled = threads.station.manager.staRetryEnabled
  wifiSta : next.wifiSta = threads.wifiSta

theorem Keeps.stepRetry {netMgmtRet : Int}
    (taken : threads.stepRetry config netMgmtRet = some next) : threads.Keeps next := by
  cases retry : threads.retry with
  | connect pc =>
      have kept := stepConnect_keeps threads config netMgmtRet pc
      have wifiSta : (threads.stepConnect config netMgmtRet pc).1.wifiSta = threads.wifiSta := rfl
      simp only [StationThreads.stepRetry, retry] at taken
      split at taken <;> rename_i equal
      all_goals
        rw [equal] at kept wifiSta
        cases taken
        exact ⟨kept.1, kept.2, wifiSta⟩
  | exited => simp [StationThreads.stepRetry, retry] at taken
  | waitEnabled =>
      simp only [StationThreads.stepRetry, retry] at taken
      split at taken <;> obtain rfl := Option.some.inj taken <;> exact ⟨rfl, rfl, rfl⟩
  | enter | check | idle | backoff | recheck | disconnect | settle | doubleBackoff =>
      simp only [StationThreads.stepRetry, retry, Option.some.injEq] at taken
      subst taken
      exact ⟨rfl, rfl, rfl⟩

/-- The loop of the retry thread, behind its wait for `sta_retry_enabled`. -/
def inLoop : RetryPc → Prop
  | .enter | .waitEnabled | .exited => False
  | _ => True

/-- The loop is entered when `sta_retry_enabled` is found set. -/
theorem stepRetry_inLoop {netMgmtRet : Int}
    (taken : threads.stepRetry config netMgmtRet = some next) (inside : inLoop next.retry) :
    inLoop threads.retry ∨ threads.station.manager.staRetryEnabled = true := by
  cases retry : threads.retry with
  | enter =>
      simp only [stepRetry, retry, Option.some.injEq] at taken
      subst taken
      dsimp only at inside
      split at inside <;> exact inside.elim
  | waitEnabled =>
      simp only [stepRetry, retry] at taken
      split at taken
      · rename_i enabled
        exact .inr enabled
      · cases taken
        rw [retry] at inside
        exact inside.elim
  | exited => simp [stepRetry, retry] at taken
  | check | idle | backoff | recheck | disconnect | settle | connect pc | doubleBackoff =>
      exact .inl trivial

theorem stepResult_withMain (threads : StationThreads) (main : MainPc) (event : WifiMgmtEvent) :
    StationThreads.stepResult { threads with main } event =
      (threads.stepResult event).map fun next => { next with main } := by
  simp only [stepResult]
  split <;> rfl

/-- A handler run changes only the station's flags. -/
theorem Keeps.stepResult {event : WifiMgmtEvent}
    (taken : threads.stepResult event = some next) :
    threads.Keeps next ∧ next.retry = threads.retry := by
  simp only [StationThreads.stepResult] at taken
  split at taken
  · obtain rfl := Option.some.inj taken
    exact ⟨⟨Station.step_staIface _ _, Station.step_staRetryEnabled _ _, rfl⟩, rfl⟩
  · obtain rfl := Option.some.inj taken
    exact ⟨⟨Station.step_staIface _ _, Station.step_staRetryEnabled _ _, rfl⟩, rfl⟩
  · contradiction

end StationThreads

namespace StartThreads

open WifiCall

variable {config : Config} {options : WifiOptions config}
  {netAddrPton : List Byte → Option NetInAddr}

/-- The same shared state, with the main thread at a named position that its script can go
on from. -/
def Matches (config : Config) (start : StartThreads) (threads : StationThreads) : Prop :=
  ∃ position : Position, position.Holds start ∧ threads = start.withMain position.pc ∧
    start.main.Conforms (Moves config) (fun _ position => position.pc = .finished) position

theorem matches_of_initial {start : StartThreads}
    (initial : Initial options netAddrPton start) :
    Matches config start (start.withMain .ifaces) ∧ (start.withMain .ifaces).Initial := by
  obtain ⟨manager, unhandled, retry, main⟩ := initial
  constructor
  · refine ⟨⟨.ifaces, none⟩, absurd rfl, rfl, ?_⟩
    rw [main]
    exact WifiScript.moves_wifiManagerStart options netAddrPton none
  · exact ⟨manager, unhandled, rfl, retry⟩

/-- A call of the main thread. -/
theorem Matches.main {start next : StartThreads} {threads : StationThreads}
    {made : Answered WifiCall.Answer} (matched : Matches config start threads)
    (taken : start.step config (.main made) = some next) :
    ∃ rets : List Int, ∃ threads', (StationThreads.machine config).exec threads (rets.map .main) =
      some threads' ∧ Matches config next threads' := by
  obtain ⟨position, holds, rfl, conforms⟩ := matched
  simp only [step, Option.bind_eq_some_iff, Option.map_eq_some_iff] at taken
  obtain ⟨rest, stepped, changed, changes, rfl⟩ := taken
  obtain ⟨branch, shape, rfl⟩ := Script.step_eq_some.mp stepped
  rw [shape] at conforms
  obtain ⟨position', moves, later⟩ := conforms made.answer
  obtain ⟨holds', rets, moved⟩ := moves start changed holds changes
  exact ⟨rets, changed.withMain position'.pc, moved, position', holds', rfl, later⟩

/-- A step of another party, which neither looks at the main thread's position nor changes
what the main thread relies on. -/
theorem Matches.others {start : StartThreads} {threads next : StationThreads}
    (other : StationThreads → Option StationThreads) (matched : Matches config start threads)
    (blind : ∀ threads main, other { threads with main } =
      (other threads).map fun next => { next with main })
    (taken : other (start.withMain .finished) = some next)
    (kept : (start.withMain .finished).Keeps next) :
    ∃ threads', other threads = some threads' ∧ Matches config (start.others next) threads' := by
  obtain ⟨position, holds, rfl, conforms⟩ := matched
  have moved := blind (start.withMain .finished) position.pc
  rw [taken] at moved
  refine ⟨_, moved, position, ?_, ?_, conforms⟩
  · intro known
    exact ⟨kept.staIface.trans (holds known).1, (holds known).2⟩
  · simp [withMain, StartThreads.others, kept.wifiSta]

/-- Every step is matched. -/
theorem Matches.step {start next : StartThreads} {threads : StationThreads} {action : StartAction}
    (matched : Matches config start threads)
    (taken : start.step config action = some next) :
    ∃ actions threads', (StationThreads.machine config).exec threads actions = some threads' ∧
      Matches config next threads' := by
  cases action with
  | main made =>
      obtain ⟨rets, threads', moved, matched⟩ := matched.main taken
      exact ⟨_, threads', moved, matched⟩
  | retry netMgmtRet =>
      simp only [StartThreads.step, Option.map_eq_some_iff] at taken
      obtain ⟨next, moved, rfl⟩ := taken
      have kept := StationThreads.Keeps.stepRetry moved
      obtain ⟨threads', moved, matched⟩ := Matches.others
        (fun threads => threads.stepRetry config netMgmtRet) matched
        (fun threads main => StationThreads.stepRetry_withMain threads main netMgmtRet) moved
        kept
      exact ⟨[.retry netMgmtRet], threads', by simp [StationThreads.machine, StationThreads.step,
        moved], matched⟩
  | result event =>
      simp only [StartThreads.step, Option.map_eq_some_iff] at taken
      obtain ⟨next, moved, rfl⟩ := taken
      obtain ⟨threads', moved, matched⟩ := Matches.others
        (fun threads => threads.stepResult event) matched
        (fun threads main => StationThreads.stepResult_withMain threads main event) moved
        (StationThreads.Keeps.stepResult moved).1
      exact ⟨[.result event], threads', by simp [StationThreads.machine, StationThreads.step,
        moved], matched⟩
  | event event =>
      obtain rfl := Option.some.inj taken
      obtain ⟨position, holds, rfl, conforms⟩ := matched
      refine ⟨[.event event], _, rfl, position, ?_, rfl, conforms⟩
      intro known
      exact ⟨(Station.step_staIface _ event).trans (holds known).1, (holds known).2⟩

/-- The committed defaults with a network to join. -/
def joins : Config := { Config.committed with staSsid := [98, 111, 97, 116] }

def apAddress : List Byte := [49, 57, 50, 46, 49, 54, 56, 46, 52, 46, 49]

def apNetmask : List Byte := [50, 53, 53, 46, 50, 53, 53, 46, 50, 53, 53, 46, 48]

def joinsOptions : WifiOptions joins where
  apEnable := true
  apSsid := [78, 77, 69, 65, 48, 49, 56, 51]
  apPsk := [67, 104, 97, 110, 103, 101, 77, 101, 49, 50, 51, 52]
  apIpAddress := apAddress
  apNetmask := apNetmask
  staPsk := []
  staRotateMac := true
  rotate_depends := fun _ => rfl

def joinsPton (text : List Byte) : Option NetInAddr :=
  if text = apAddress then some ⟨#v[192, 168, 4, 1]⟩
  else if text = apNetmask then some ⟨#v[255, 255, 255, 0]⟩
  else none

/-- The address is changed while the interface is down; the access point refuses. -/
def refusedCalls : List (Answered WifiCall.Answer) :=
  [⟨addWifiCallback, ()⟩, ⟨addIpv4Callback, ()⟩, ⟨netIfGetWifiSap, some ⟨1⟩⟩,
    ⟨netIfGetWifiSta, some ⟨2⟩⟩, ⟨espWifiSetMode, 0⟩,
    ⟨netIfGetLinkAddr ⟨2⟩, some [0x24, 0x6F, 0x28, 1, 2, 3]⟩, ⟨sysRandGet, (7, 8, 9)⟩,
    ⟨netIfIsAdminUp ⟨2⟩, true⟩, ⟨netIfDown ⟨2⟩, 0⟩,
    ⟨setMacAddress ⟨2⟩ [0x26, 0x6F, 0x28, 7, 8, 9], 0⟩, ⟨netIfUp ⟨2⟩, 0⟩,
    ⟨netIfIpv4SetGw ⟨1⟩ ⟨#v[192, 168, 4, 1]⟩, ()⟩,
    ⟨netIfIpv4AddrAdd ⟨1⟩ ⟨#v[192, 168, 4, 1]⟩, true⟩,
    ⟨netIfIpv4SetNetmaskByAddr ⟨1⟩ ⟨#v[192, 168, 4, 1]⟩ ⟨#v[255, 255, 255, 0]⟩, true⟩,
    ⟨netDhcpv4ServerStart ⟨1⟩ ⟨#v[192, 168, 4, 11]⟩, 0⟩,
    ⟨wifiApEnable ⟨1⟩ (WifiScript.reqParams joinsOptions.apSsid joinsOptions.apPsk), -5⟩,
    ⟨wifiDisconnect ⟨2⟩, 0⟩, ⟨kSleep 500, ()⟩,
    ⟨wifiConnect ⟨2⟩ (WifiScript.reqParams joins.staSsid []), 0⟩, ⟨setStaConnectRequested true, ()⟩,
    ⟨wifiPs ⟨2⟩, 0⟩, ⟨setStaRetryEnabled, ()⟩]

/-- The retry thread waits from the beginning. -/
def refusedStart : List StartAction :=
  [.retry 0, .retry 0] ++ refusedCalls.map .main ++
    [.result (.connectResult (some 1)), .retry 0, .retry 0]

def bootStart : StartThreads where
  station := Station.start none none
  wifiSta := some ⟨2⟩
  unhandled := 0
  retry := .enter
  main := WifiScript.wifiManagerStart joinsOptions joinsPton

def refusedFinish : StartThreads where
  station := { manager := { staIface := some ⟨2⟩, staRetryEnabled := true }, table := none }
  wifiSta := some ⟨2⟩
  unhandled := 0
  retry := .backoff
  main := .done (-5)

theorem refusedStart_run :
    (machine joinsOptions joinsPton).exec bootStart refusedStart = some refusedFinish := rfl

theorem bootStart_initial : Initial joinsOptions joinsPton bootStart := ⟨rfl, rfl, rfl, rfl⟩

/-- Start-up call by call, among the other threads, is start-up by named positions: every run
is matched by one with the same shared variables and the same retry thread, whose main thread
has finished when `wifi_manager_start` has. -/
theorem startRefines (options : WifiOptions config) (netAddrPton : List Byte → Option NetInAddr)
    {start finish : StartThreads} {actions : List StartAction}
    (initial : (machine options netAddrPton).init start)
    (run : (machine options netAddrPton).exec start actions = some finish) :
    (StationThreads.machine config).init (start.withMain .ifaces) ∧
      ∃ actions' main, (StationThreads.machine config).exec (start.withMain .ifaces) actions' =
          some (finish.withMain main) ∧
        ∀ ret, finish.main = .done ret → main = .finished := by
  obtain ⟨matched, begins⟩ := matches_of_initial initial
  obtain ⟨actions', threads, reached, position, holds, rfl, conforms⟩ :=
    Machine.exec_simulates (Matches config)
      (fun _ _ _ _ matched taken => Matches.step matched taken) matched run
  refine ⟨begins, actions', position.pc, reached, ?_⟩
  intro ret finished
  rw [finished] at conforms
  exact conforms

theorem startRefines_refused :
    (StationThreads.machine joins).init (bootStart.withMain .ifaces) ∧
      ∃ actions' main, (StationThreads.machine joins).exec (bootStart.withMain .ifaces) actions' =
          some (refusedFinish.withMain main) ∧
        ∀ ret, refusedFinish.main = .done ret → main = .finished :=
  startRefines joinsOptions joinsPton bootStart_initial refusedStart_run

theorem effect_retryEnabled {start next : StartThreads} {made : Answered WifiCall.Answer}
    (locked : start.station.manager.staRetryEnabled = false)
    (changes : start.effect made = some next) :
    next.retry = start.retry ∧ (next.station.manager.staRetryEnabled = true →
      ∃ answer, made = ⟨setStaRetryEnabled, answer⟩) := by
  obtain ⟨request, answer⟩ := made
  cases request with
  | setStaRetryEnabled =>
      cases changes
      exact ⟨rfl, fun _ => ⟨answer, rfl⟩⟩
  | netIfGetWifiSta =>
      simp only [effect] at changes
      split at changes
      · cases changes
        exact ⟨rfl, fun enabled => absurd enabled (by simp [locked])⟩
      · contradiction
  | _ =>
      cases changes
      exact ⟨rfl, fun enabled => absurd enabled (by simp [locked])⟩

/-- The calls of the main thread in a run. -/
def mainCalls (actions : List StartAction) : List (Answered WifiCall.Answer) :=
  actions.filterMap fun action =>
    match action with
    | .main made => some made
    | .retry _ | .result _ | .event _ => none

@[simp] theorem mainCalls_main (actions : List StartAction) (made : Answered WifiCall.Answer) :
    mainCalls (actions ++ [.main made]) = mainCalls actions ++ [made] := by
  simp [mainCalls]

@[simp] theorem mainCalls_retry (actions : List StartAction) (netMgmtRet : Int) :
    mainCalls (actions ++ [.retry netMgmtRet]) = mainCalls actions := by
  simp [mainCalls]

@[simp] theorem mainCalls_result (actions : List StartAction) (event : WifiMgmtEvent) :
    mainCalls (actions ++ [.result event]) = mainCalls actions := by
  simp [mainCalls]

@[simp] theorem mainCalls_event (actions : List StartAction) (event : StationEvent) :
    mainCalls (actions ++ [.event event]) = mainCalls actions := by
  simp [mainCalls]

/-- The calls so far were made in order, and the retry thread stays out of its loop until the
call that lets it go. -/
structure Ordered (options : WifiOptions config) (calls : List (Answered WifiCall.Answer))
    (start : StartThreads) : Prop where
  obeyed : WifiSetup.protocol.Obeyed {} calls
  conforms : start.main.Conforms WifiSetup.protocol.transition (WifiScript.Started options)
    (WifiSetup.protocol.after {} calls)
  waits : start.station.manager.staRetryEnabled = true →
    (WifiSetup.protocol.after {} calls).retryEnabled = true
  released : StationThreads.inLoop start.retry → start.station.manager.staRetryEnabled = true

theorem Ordered.of_initial {start : StartThreads}
    (initial : Initial options netAddrPton start) : start.Ordered options [] := by
  obtain ⟨manager, unhandled, retry, main⟩ := initial
  constructor
  · exact Script.Protocol.obeyed_nil
  · rw [main]
    exact WifiScript.conforms_wifiManagerStart options netAddrPton
  · rw [manager]
    exact nofun
  · rw [retry]
    exact False.elim

/-- A call of the main thread is made while the retry thread still waits. -/
theorem Ordered.main {start next : StartThreads} {calls : List (Answered WifiCall.Answer)}
    {made : Answered WifiCall.Answer} (ordered : start.Ordered options calls)
    (taken : start.step config (.main made) = some next) :
    next.Ordered options (calls ++ [made]) := by
  simp only [StartThreads.step, Option.bind_eq_some_iff, Option.map_eq_some_iff] at taken
  obtain ⟨rest, stepped, changed, changes, rfl⟩ := taken
  obtain ⟨branch, shape, rfl⟩ := Script.step_eq_some.mp stepped
  have conforms := ordered.conforms
  rw [shape] at conforms
  obtain ⟨_, ⟨allowed, rfl⟩, later⟩ := conforms made.answer
  have locked : start.station.manager.staRetryEnabled = false := by
    rw [Bool.eq_false_iff]
    intro enabled
    exact absurd (ordered.waits enabled) (Bool.eq_false_iff.mp allowed.1)
  have outside : ¬StationThreads.inLoop start.retry := by
    intro inside
    rw [ordered.released inside] at locked
    contradiction
  obtain ⟨elsewhere, lets⟩ := effect_retryEnabled locked changes
  constructor
  · exact Script.Protocol.obeyed_concat.mpr ⟨ordered.obeyed, allowed⟩
  · rw [Script.Protocol.after_concat]
    exact later
  · intro enabled
    obtain ⟨answer, rfl⟩ := lets enabled
    rw [Script.Protocol.after_concat]
    rfl
  · intro inside
    exact absurd (elsewhere ▸ inside) outside

theorem Ordered.step {start next : StartThreads} {actions : List StartAction}
    {action : StartAction} (ordered : start.Ordered options (mainCalls actions))
    (taken : start.step config action = some next) :
    next.Ordered options (mainCalls (actions ++ [action])) := by
  cases action with
  | main made =>
      rw [mainCalls_main]
      exact ordered.main taken
  | retry netMgmtRet =>
      simp only [StartThreads.step, Option.map_eq_some_iff] at taken
      obtain ⟨threads, moved, rfl⟩ := taken
      have kept := (StationThreads.Keeps.stepRetry moved).staRetryEnabled
      rw [mainCalls_retry]
      constructor
      · exact ordered.obeyed
      · exact ordered.conforms
      · exact fun enabled => ordered.waits (kept ▸ enabled)
      · intro inside
        exact kept.trans
          ((StationThreads.stepRetry_inLoop moved inside).elim ordered.released id)
  | result event =>
      simp only [StartThreads.step, Option.map_eq_some_iff] at taken
      obtain ⟨threads, moved, rfl⟩ := taken
      obtain ⟨kept, elsewhere⟩ := StationThreads.Keeps.stepResult moved
      rw [mainCalls_result]
      constructor
      · exact ordered.obeyed
      · exact ordered.conforms
      · exact fun enabled => ordered.waits (kept.staRetryEnabled ▸ enabled)
      · intro inside
        rw [StartThreads.others, elsewhere] at inside
        exact kept.staRetryEnabled.trans (ordered.released inside)
  | event event =>
      obtain rfl := Option.some.inj taken
      have kept := Station.step_staRetryEnabled start.station event
      rw [mainCalls_event]
      constructor
      · exact ordered.obeyed
      · exact ordered.conforms
      · exact fun enabled => ordered.waits (kept ▸ enabled)
      · exact fun inside => kept.trans (ordered.released inside)

/-- `wifi_manager_start` returns, whatever state it is called in. -/
theorem exists_returns (options : WifiOptions config)
    (netAddrPton : List Byte → Option NetInAddr) (start : StartThreads) :
    ∃ calls : List (Answered WifiCall.Answer), ∃ finish ret,
      (machine options netAddrPton).exec start (calls.map .main) = some finish ∧
        finish.main = .done ret := by
  obtain ⟨station, wifiSta, unhandled, retry, main⟩ := start
  induction main generalizing station unhandled with
  | done ret => exact ⟨[], _, ret, rfl, rfl⟩
  | call request next ih =>
      have answered : ∃ answer : request.Answer, ∃ station' unhandled',
          effect ⟨station, wifiSta, unhandled, retry, .call request next⟩ ⟨request, answer⟩ =
            some ⟨station', wifiSta, unhandled', retry, .call request next⟩ := by
        cases request with
        | netIfGetWifiSta => exact ⟨wifiSta, _, _, if_pos rfl⟩
        | _ => exact ⟨default, _, _, rfl⟩
      obtain ⟨answer, station', unhandled', changes⟩ := answered
      obtain ⟨calls, finish, ret, run, returned⟩ := ih answer station' unhandled'
      refine ⟨⟨request, answer⟩ :: calls, finish, ret, ?_, returned⟩
      simp only [List.map_cons, Machine.exec_cons]
      simp only [machine, step, Script.step, changes, dif_pos]
      exact run

end StartThreads

end EspNmeaBridge
