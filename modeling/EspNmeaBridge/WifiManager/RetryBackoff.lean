import EspNmeaBridge.Library.Backoff
import EspNmeaBridge.Library.Pacing
import EspNmeaBridge.WifiManager.Retry

/-!
# The back-off of the retry thread

The retry thread doubles `sta_retry_backoff_s` after an attempt, and a successful connect
result resets it, from another thread.  Doubling reads the variable and writes it back in
two steps here, so a result may be handled in between and its reset be overwritten.
-/

namespace EspNmeaBridge

open Library

namespace Station

variable (station : Station)

/-- The initial value of `sta_retry_backoff_s`, to which a successful connect resets it. -/
theorem step_staRetryBackoffS (event : StationEvent) :
    (station.step event).manager.staRetryBackoffS =
      if event.staLink station.manager.staIface = some .up then 5
      else station.manager.staRetryBackoffS := by
  cases event with
  | wifi event iface =>
      cases event with
      | connectResult status =>
          by_cases own : some iface = station.manager.staIface <;>
            cases failed : WifiManager.connectFailed status <;>
            simp [step, WifiManager.wifiEventHandler, StationEvent.staLink, own, failed]
      | disconnectResult =>
          by_cases own : some iface = station.manager.staIface <;>
            simp [step, WifiManager.wifiEventHandler, StationEvent.staLink, own]
      | apEnableResult | apDisableResult | apStaConnected | apStaDisconnected =>
          simp [step, WifiManager.wifiEventHandler, StationEvent.staLink]
  | ipv4 event iface =>
      cases event with
      | addrAdd | dhcpBound =>
          simp [step, WifiManager.ipv4EventHandler, StationEvent.staLink]
      | dhcpStop =>
          simp only [step, WifiManager.ipv4EventHandler, StationEvent.staLink]
          split <;> simp
  | poll =>
      simp only [step, WifiManager.staReady, StationEvent.staLink]
      split <;> simp
  | setTable ipv4 => simp [step, StationEvent.staLink]

end Station

namespace StationThreads

variable {config : Config} {threads next : StationThreads}

/-- The event handled in a step, if it is one of a handler. -/
def handled (threads : StationThreads) : StationAction → Option StationEvent
  | .result event => threads.station.manager.staIface.map (.wifi event ·)
  | .event event => some event
  | .main _ | .retry _ => none

/-- A successful connect result is handled in this step. -/
def connects (threads : StationThreads) (action : StationAction) : Bool :=
  match threads.handled action with
  | none => false
  | some event => event.staLink threads.station.manager.staIface = some .up

theorem stepConnect_staRetryBackoffS (threads : StationThreads) (config : Config)
    (netMgmtRet : Int) (pc : ConnectPc) :
    (threads.stepConnect config netMgmtRet pc).1.station.manager.staRetryBackoffS =
      threads.station.manager.staRetryBackoffS := by
  cases pc with
  | enter =>
      simp only [stepConnect, connectSta]
      repeat' split
      all_goals rfl
  | returned ret =>
      simp only [stepConnect, connectSta]
      split <;> rfl
  | request | powerSave => rfl

/-- Of the main thread only `connect_sta` is in both threads. -/
theorem stepMain_staRetryBackoffS {netMgmtRet : Int}
    (taken : threads.stepMain config netMgmtRet = some next) :
    next.station.manager.staRetryBackoffS = threads.station.manager.staRetryBackoffS ∧
      next.retry = threads.retry := by
  cases main : threads.main with
  | connect pc =>
      have kept := stepConnect_staRetryBackoffS threads config netMgmtRet pc
      have retry : (threads.stepConnect config netMgmtRet pc).1.retry = threads.retry := rfl
      simp only [stepMain, main] at taken
      split at taken <;> rename_i equal
      all_goals
        rw [equal] at kept retry
        obtain rfl := Option.some.inj taken
        exact ⟨kept, retry⟩
  | finished => simp [stepMain, main] at taken
  | ifaces | accessPoint | disconnect | settle | enableRetry =>
      simp only [stepMain, main, Option.some.injEq] at taken
      subst taken
      exact ⟨rfl, rfl⟩

/-- The retry thread writes the back-off at one position only. -/
theorem stepRetry_staRetryBackoffS {netMgmtRet : Int} (outside : threads.retry ≠ .doubleBackoff)
    (taken : threads.stepRetry config netMgmtRet = some next) :
    next.station.manager.staRetryBackoffS = threads.station.manager.staRetryBackoffS := by
  cases retry : threads.retry with
  | connect pc =>
      have kept := stepConnect_staRetryBackoffS threads config netMgmtRet pc
      simp only [stepRetry, retry] at taken
      split at taken <;> rename_i equal
      all_goals
        rw [equal] at kept
        obtain rfl := Option.some.inj taken
        exact kept
  | exited => simp [stepRetry, retry] at taken
  | waitEnabled =>
      simp only [stepRetry, retry] at taken
      split at taken <;> obtain rfl := Option.some.inj taken <;> rfl
  | doubleBackoff => exact absurd retry outside
  | enter | check | idle | backoff | recheck | disconnect | settle =>
      simp only [stepRetry, retry, Option.some.injEq] at taken
      subst taken
      rfl

/-- The positions of `connect_sta` and where a step leads from them. -/
inductive ConnectLeads : ConnectPc → ConnectNext → Prop where
  | skips (ret : Int) : ConnectLeads .enter (.finished ret)
  | asks : ConnectLeads .enter (.inside .request)
  | returns (ret : Int) : ConnectLeads .request (.inside (.returned ret))
  | fails (ret : Int) : ConnectLeads (.returned ret) (.finished ret)
  | requested (ret : Int) : ConnectLeads (.returned ret) (.inside .powerSave)
  | finishes : ConnectLeads .powerSave (.finished 0)

theorem stepConnect_leads (threads : StationThreads) (config : Config) (netMgmtRet : Int)
    (pc : ConnectPc) : ConnectLeads pc (threads.stepConnect config netMgmtRet pc).2 := by
  cases pc with
  | enter =>
      simp only [stepConnect, connectSta]
      split
      · exact .skips _
      · split
        · exact .skips _
        · exact .asks
  | request => exact .returns netMgmtRet
  | returned ret =>
      simp only [stepConnect, connectSta]
      split
      · exact .fails ret
      · exact .requested ret
  | powerSave => exact .finishes

/-- The positions of `sta_retry_thread` and their successors. -/
inductive RetryLeads : RetryPc → RetryPc → Prop where
  | leaves : RetryLeads .enter .exited
  | begins : RetryLeads .enter .waitEnabled
  | waits : RetryLeads .waitEnabled .waitEnabled
  | enabled : RetryLeads .waitEnabled .check
  | idles : RetryLeads .check .idle
  | checks : RetryLeads .idle .check
  | backsOff : RetryLeads .check .backoff
  | rechecks : RetryLeads .backoff .recheck
  | busy : RetryLeads .recheck .check
  | disconnects : RetryLeads .recheck .disconnect
  | settles : RetryLeads .disconnect .settle
  | connects : RetryLeads .settle (.connect .enter)
  | inside {pc next : ConnectPc} (leads : ConnectLeads pc (.inside next)) :
      RetryLeads (.connect pc) (.connect next)
  | finished {pc : ConnectPc} {ret : Int} (leads : ConnectLeads pc (.finished ret)) :
      RetryLeads (.connect pc) .doubleBackoff
  | doubles : RetryLeads .doubleBackoff .check

theorem stepRetry_leads {netMgmtRet : Int}
    (taken : threads.stepRetry config netMgmtRet = some next) :
    RetryLeads threads.retry next.retry := by
  cases retry : threads.retry with
  | connect pc =>
      have leads := stepConnect_leads threads config netMgmtRet pc
      simp only [stepRetry, retry] at taken
      split at taken <;> rename_i equal <;> rw [equal] at leads <;>
        obtain rfl := Option.some.inj taken
      · exact .inside leads
      · exact .finished leads
  | exited => simp [stepRetry, retry] at taken
  | waitEnabled =>
      simp only [stepRetry, retry] at taken
      split at taken <;> obtain rfl := Option.some.inj taken
      · exact .enabled
      · rw [retry]
        exact .waits
  | enter =>
      simp only [stepRetry, retry, Option.some.injEq] at taken
      subst taken
      dsimp only
      split
      · exact .leaves
      · exact .begins
  | check =>
      simp only [stepRetry, retry, Option.some.injEq] at taken
      subst taken
      dsimp only
      split
      · exact .idles
      · exact .backsOff
  | recheck =>
      simp only [stepRetry, retry, Option.some.injEq] at taken
      subst taken
      dsimp only
      split
      · exact .busy
      · exact .disconnects
  | idle =>
      simp only [stepRetry, retry, Option.some.injEq] at taken
      exact taken ▸ .checks
  | backoff =>
      simp only [stepRetry, retry, Option.some.injEq] at taken
      exact taken ▸ .rechecks
  | disconnect =>
      simp only [stepRetry, retry, Option.some.injEq] at taken
      exact taken ▸ .settles
  | settle =>
      simp only [stepRetry, retry, Option.some.injEq] at taken
      exact taken ▸ .connects
  | doubleBackoff =>
      simp only [stepRetry, retry, Option.some.injEq] at taken
      exact taken ▸ .doubles

/-- A handler run in a step of the machine. -/
theorem stepHandler {action : StationAction} {event : StationEvent}
    (taken : threads.step config action = some next)
    (handles : threads.handled action = some event) :
    next.station = threads.station.step event ∧ next.retry = threads.retry := by
  cases action with
  | main netMgmtRet | retry netMgmtRet => contradiction
  | event event' =>
      obtain rfl := Option.some.inj handles
      obtain rfl := Option.some.inj taken
      exact ⟨rfl, rfl⟩
  | result result =>
      simp only [step, stepResult] at taken
      split at taken
      · rename_i iface own
        simp only [handled, own, Option.map_some, Option.some.injEq] at handles
        obtain rfl := handles
        obtain rfl := Option.some.inj taken
        exact ⟨rfl, rfl⟩
      · rename_i iface own
        simp only [handled, own, Option.map_some, Option.some.injEq] at handles
        obtain rfl := handles
        obtain rfl := Option.some.inj taken
        exact ⟨rfl, rfl⟩
      · contradiction

/-- A step that handles nothing is one of a thread. -/
theorem stepThread {action : StationAction} (taken : threads.step config action = some next)
    (handles : threads.handled action = none) :
    (∃ netMgmtRet, action = .main netMgmtRet ∧ threads.stepMain config netMgmtRet = some next) ∨
      ∃ netMgmtRet, action = .retry netMgmtRet ∧
        threads.stepRetry config netMgmtRet = some next := by
  cases action with
  | main netMgmtRet => exact .inl ⟨netMgmtRet, rfl, taken⟩
  | retry netMgmtRet => exact .inr ⟨netMgmtRet, rfl, taken⟩
  | event event => contradiction
  | result event =>
      simp only [handled, Option.map_eq_none_iff] at handles
      simp [step, stepResult, handles] at taken

end StationThreads

/-- The threads of the station; `loaded` is what the retry thread has read of
`sta_retry_backoff_s` and is about to double and write back. -/
structure RetryThreads where
  threads : StationThreads
  loaded : Option UInt32 := none
  deriving DecidableEq, Repr

namespace RetryThreads

section Model

variable (config : Config)

/-- One step of `sta_retry_thread`, whose last statement takes two. -/
def stepRetry (retry : RetryThreads) (netMgmtRet : Int) : Option RetryThreads :=
  if retry.threads.retry = .doubleBackoff then
    match retry.loaded with
    | none => some { retry with loaded := some retry.threads.station.manager.staRetryBackoffS }
    | some backoffS =>
        some {
          threads := { retry.threads with
            station.manager.staRetryBackoffS := StationThreads.doubledBackoff backoffS
            retry := .check }
          loaded := none }
  else (retry.threads.stepRetry config netMgmtRet).map fun threads => { retry with threads }

def step (retry : RetryThreads) : StationAction → Option RetryThreads
  | .retry netMgmtRet => retry.stepRetry config netMgmtRet
  | action => (retry.threads.step config action).map fun threads => { retry with threads }

/-- The threads at boot. -/
def Initial (retry : RetryThreads) : Prop := retry.threads.Initial ∧ retry.loaded = none

def machine : Machine RetryThreads StationAction where
  init := Initial
  step := step config

/-- The milliseconds that the retry thread sleeps in a step. -/
def sleptMs (retry : RetryThreads) : StationAction → Nat
  | .retry _ =>
      match retry.threads.retry with
      | .waitEnabled => if retry.threads.station.manager.staRetryEnabled then 0 else 1000
      | .idle => 1000
      | .backoff => retry.threads.station.manager.staRetryBackoffS.toNat * 1000
      | .settle => 500
      | _ => 0
  | _ => 0

/-- The connect requests of the retry thread in a step. -/
def requests (retry : RetryThreads) : StationAction → Nat
  | .retry _ => if retry.threads.retry = .connect .request then 1 else 0
  | _ => 0

/-- The attempts to connect that end in a step: the one after which the back-off is
written. -/
def attempts (retry : RetryThreads) : StationAction → Nat
  | .retry _ =>
      if retry.threads.retry = .doubleBackoff ∧ retry.loaded.isSome then 1 else 0
  | _ => 0

end Model

variable {config : Config} {retry next : RetryThreads} {action : StationAction}

/-- What a step can do to the back-off. -/
inductive BackoffStep (config : Config) (retry : RetryThreads) :
    StationAction → RetryThreads → Prop where
  | reads {netMgmtRet : Int} (pc : retry.threads.retry = .doubleBackoff)
      (idle : retry.loaded = none) :
      BackoffStep config retry (.retry netMgmtRet)
        { retry with loaded := some retry.threads.station.manager.staRetryBackoffS }
  | writes {netMgmtRet : Int} {backoffS : UInt32} (pc : retry.threads.retry = .doubleBackoff)
      (loaded : retry.loaded = some backoffS) :
      BackoffStep config retry (.retry netMgmtRet) {
        threads := { retry.threads with
          station.manager.staRetryBackoffS := StationThreads.doubledBackoff backoffS
          retry := .check }
        loaded := none }
  | retries {netMgmtRet : Int} {threads : StationThreads}
      (pc : retry.threads.retry ≠ .doubleBackoff)
      (taken : retry.threads.stepRetry config netMgmtRet = some threads)
      (kept : threads.station.manager.staRetryBackoffS =
        retry.threads.station.manager.staRetryBackoffS) :
      BackoffStep config retry (.retry netMgmtRet) { retry with threads }
  | starts {netMgmtRet : Int} {threads : StationThreads}
      (taken : retry.threads.stepMain config netMgmtRet = some threads)
      (kept : threads.station.manager.staRetryBackoffS =
        retry.threads.station.manager.staRetryBackoffS)
      (elsewhere : threads.retry = retry.threads.retry) :
      BackoffStep config retry (.main netMgmtRet) { retry with threads }
  | handles {action : StationAction} {event : StationEvent} {threads : StationThreads}
      (handled : retry.threads.handled action = some event)
      (station : threads.station = retry.threads.station.step event)
      (elsewhere : threads.retry = retry.threads.retry) :
      BackoffStep config retry action { retry with threads }

theorem step_backoff (taken : retry.step config action = some next) :
    BackoffStep config retry action next := by
  by_cases own : ∃ netMgmtRet, action = .retry netMgmtRet
  · obtain ⟨netMgmtRet, rfl⟩ := own
    by_cases pc : retry.threads.retry = .doubleBackoff
    · cases loaded : retry.loaded with
      | none =>
          simp only [step, stepRetry, if_pos pc, loaded, Option.some.injEq] at taken
          rw [← taken]
          exact .reads pc loaded
      | some backoffS =>
          simp only [step, stepRetry, if_pos pc, loaded, Option.some.injEq] at taken
          rw [← taken]
          exact .writes pc loaded
    · have moved : (retry.threads.stepRetry config netMgmtRet).map
          (fun threads => { retry with threads }) = some next := by
        rw [← taken, step, stepRetry, if_neg pc]
      obtain ⟨threads, inner, rfl⟩ := Option.map_eq_some_iff.mp moved
      exact .retries pc inner (StationThreads.stepRetry_staRetryBackoffS pc inner)
  · have moved : (retry.threads.step config action).map
        (fun threads => { retry with threads }) = some next := by
      rw [← taken]
      cases action with
      | retry netMgmtRet => exact absurd ⟨netMgmtRet, rfl⟩ own
      | main netMgmtRet | result event | event event => rfl
    obtain ⟨threads, inner, rfl⟩ := Option.map_eq_some_iff.mp moved
    cases handled : retry.threads.handled action with
    | some event =>
        obtain ⟨station, elsewhere⟩ := StationThreads.stepHandler inner handled
        exact .handles handled station elsewhere
    | none =>
        rcases StationThreads.stepThread inner handled with
          ⟨netMgmtRet, rfl, main⟩ | ⟨netMgmtRet, rfl, _⟩
        · obtain ⟨kept, elsewhere⟩ := StationThreads.stepMain_staRetryBackoffS main
          exact .starts main kept elsewhere
        · exact absurd ⟨netMgmtRet, rfl⟩ own

/-- The value of `sta_retry_backoff_s` after a number of attempts. -/
def Escalated (attempts : Nat) (backoffS : UInt32) : Prop :=
  backoffS.toNat = backoff 5 60 (attempts + 1)

theorem escalated_zero : Escalated 0 5 := by
  rw [Escalated, backoff_one]
  decide

theorem Escalated.le {attempts : Nat} {backoffS : UInt32}
    (escalated : Escalated attempts backoffS) :
    5 ≤ backoffS.toNat ∧ backoffS.toNat ≤ 60 := by
  rw [escalated]
  constructor
  · exact initial_le_backoff (by decide) _
  · exact backoff_le _ _ _

theorem Escalated.doubled {attempts : Nat} {backoffS : UInt32}
    (escalated : Escalated attempts backoffS) :
    Escalated (attempts + 1) (StationThreads.doubledBackoff backoffS) :=
  backoff_toNat_doubled (by decide) escalated

/-- Both copies of the back-off are values of the schedule. -/
structure Scheduled (retry : RetryThreads) : Prop where
  shared : ∃ attempts, Escalated attempts retry.threads.station.manager.staRetryBackoffS
  loaded : ∀ backoffS, retry.loaded = some backoffS → ∃ attempts, Escalated attempts backoffS

theorem Scheduled.of_initial (initial : retry.Initial) : retry.Scheduled := by
  constructor
  · rw [initial.1.1]
    exact ⟨0, escalated_zero⟩
  · intro backoffS loaded
    rw [initial.2] at loaded
    contradiction

theorem Scheduled.step (scheduled : retry.Scheduled)
    (taken : retry.step config action = some next) : next.Scheduled := by
  cases step_backoff taken with
  | reads pc idle =>
      constructor
      · exact scheduled.shared
      · intro backoffS loaded
        obtain rfl := Option.some.inj loaded
        exact scheduled.shared
  | writes pc loaded =>
      constructor
      · obtain ⟨attempts, escalated⟩ := scheduled.loaded _ loaded
        exact ⟨attempts + 1, escalated.doubled⟩
      · intro backoffS loaded
        contradiction
  | retries pc taken kept =>
      constructor
      · rw [kept]
        exact scheduled.shared
      · exact scheduled.loaded
  | starts taken kept elsewhere =>
      constructor
      · rw [kept]
        exact scheduled.shared
      · exact scheduled.loaded
  | handles handled station elsewhere =>
      constructor
      · rw [station, Station.step_staRetryBackoffS]
        split
        · exact ⟨0, escalated_zero⟩
        · exact scheduled.shared
      · exact scheduled.loaded

/-- At least so long has the retry thread slept since its last connect request. -/
def pauseMs : RetryPc → Nat
  | .recheck | .disconnect | .settle => 5000
  | .connect .enter | .connect .request => 5500
  | _ => 0

/-- At least so long does the retry thread sleep in a step, given its back-off. -/
def leastSleepMs (backoffMs : Nat) : RetryPc → Nat
  | .backoff => backoffMs
  | .settle => 500
  | _ => 0

theorem leastSleepMs_le (retry : RetryThreads) {backoffMs : Nat}
    (least : backoffMs ≤ retry.threads.station.manager.staRetryBackoffS.toNat * 1000)
    (netMgmtRet : Int) :
    leastSleepMs backoffMs retry.threads.retry ≤ retry.sleptMs (.retry netMgmtRet) := by
  cases pc : retry.threads.retry with
  | backoff =>
      simp only [leastSleepMs, sleptMs, pc]
      exact least
  | settle => simp [leastSleepMs, sleptMs, pc]
  | enter | waitEnabled | check | idle | recheck | disconnect | connect pc | doubleBackoff
  | exited => exact Nat.zero_le _

/-- Before a request the thread has slept through a back-off and the wait after the
disconnect. -/
theorem pauseMs_of_leads {pc pc' : RetryPc} (leads : StationThreads.RetryLeads pc pc') :
    (if pc = .connect .request then 5500 else 0) + pauseMs pc' ≤
      pauseMs pc + leastSleepMs 5000 pc := by
  cases leads with
  | inside leads => cases leads <;> simp [pauseMs, leastSleepMs]
  | finished leads => cases leads <;> simp [pauseMs, leastSleepMs]
  | leaves | begins | waits | enabled | idles | checks | backsOff | rechecks | busy
  | disconnects | settles | connects | doubles => simp [pauseMs, leastSleepMs]

/-- One step pays for the request in it. -/
theorem Scheduled.paid (scheduled : retry.Scheduled)
    (taken : retry.step config action = some next) :
    5500 * retry.requests action + pauseMs next.threads.retry ≤
      pauseMs retry.threads.retry + retry.sleptMs action := by
  cases step_backoff taken with
  | reads pc idle => simp [requests, pc]
  | writes pc loaded => simp [requests, pc, pauseMs]
  | @retries netMgmtRet threads pc moved kept =>
      obtain ⟨attempts, escalated⟩ := scheduled.shared
      have leads := pauseMs_of_leads (StationThreads.stepRetry_leads moved)
      have slept : leastSleepMs 5000 retry.threads.retry ≤ retry.sleptMs (.retry netMgmtRet) :=
        retry.leastSleepMs_le (Nat.mul_le_mul_right 1000 escalated.le.1) netMgmtRet
      simp only [requests]
      split <;> simp_all <;> omega
  | starts taken kept elsewhere =>
      simp [requests, sleptMs, elsewhere]
  | @handles action event threads handled station elsewhere =>
      cases action with
      | main netMgmtRet | retry netMgmtRet => contradiction
      | result event | event event => simp [requests, sleptMs, elsewhere]

/-- In every run, whatever the results, each connect request of the retry thread has its own
five and a half seconds of sleep before it. -/
theorem requestsPaced (config : Config) {start finish : RetryThreads}
    {actions : List StationAction} (initial : (machine config).init start)
    (run : (machine config).exec start actions = some finish) :
    5500 * (machine config).total requests start actions ≤
      (machine config).total sleptMs start actions := by
  have paid := Machine.total_le_of_potential Scheduled (fun _ _ => True)
    (fun retry action => 5500 * retry.requests action) sleptMs
    (fun retry => pauseMs retry.threads.retry)
    (fun _ _ _ scheduled _ taken => scheduled.step taken)
    (fun _ _ _ scheduled _ taken => scheduled.paid taken)
    (Scheduled.of_initial initial) (Machine.along_of_forall (fun _ _ => trivial) start actions) run
  have none : pauseMs start.threads.retry = 0 := by
    rw [initial.1.2.2.2]
    rfl
  rw [Machine.total_mul, none] at paid
  omega

/-- The main thread starts the station, no access point answers, and the retry thread makes
two attempts. -/
def unanswered : List StationAction :=
  List.replicate 9 (.main 0) ++ [.result (.connectResult (some 1))] ++
    List.replicate 13 (.retry 0) ++ [.result (.connectResult (some 1))] ++
    List.replicate 11 (.retry 0)

def bootRetry : RetryThreads := { threads := StationThreads.boot }

theorem bootRetry_initial : (machine StationThreads.namedStation).init bootRetry :=
  ⟨⟨rfl, rfl, rfl, rfl⟩, rfl⟩

theorem requestsPaced_unanswered :
    5500 * (machine StationThreads.namedStation).total requests bootRetry unanswered ≤
      (machine StationThreads.namedStation).total sleptMs bootRetry unanswered :=
  requestsPaced StationThreads.namedStation bootRetry_initial rfl

/-- No successful connect result falls between the two steps of the doubling. -/
def Undisturbed (retry : RetryThreads) (action : StationAction) : Prop :=
  retry.loaded.isSome = true → retry.threads.connects action = false

instance decidableUndisturbed (retry : RetryThreads) (action : StationAction) :
    Decidable (retry.Undisturbed action) :=
  inferInstanceAs (Decidable (_ → _))

/-- The attempts to connect that have ended since the last successful connect result. -/
def attemptsSinceConnect (steps : List (RetryThreads × StationAction)) : Nat :=
  steps.foldl (fun attempts entry =>
    if entry.1.threads.connects entry.2 then 0 else attempts + entry.1.attempts entry.2) 0

theorem attemptsSinceConnect_concat (steps : List (RetryThreads × StationAction))
    (retry : RetryThreads) (action : StationAction) :
    attemptsSinceConnect (steps ++ [(retry, action)]) =
      if retry.threads.connects action then 0
      else attemptsSinceConnect steps + retry.attempts action := by
  simp [attemptsSinceConnect]

/-- The shared back-off is that of a number of attempts, and what the retry thread has read
of it is still the same. -/
structure Follows (retry : RetryThreads) (attempts : Nat) : Prop where
  shared : Escalated attempts retry.threads.station.manager.staRetryBackoffS
  loaded : ∀ backoffS, retry.loaded = some backoffS →
    retry.threads.station.manager.staRetryBackoffS = backoffS

theorem Follows.of_initial (initial : retry.Initial) : retry.Follows 0 := by
  constructor
  · rw [initial.1.1]
    exact escalated_zero
  · intro backoffS loaded
    rw [initial.2] at loaded
    contradiction

theorem Follows.step {attempts : Nat} (follows : retry.Follows attempts)
    (undisturbed : retry.Undisturbed action) (taken : retry.step config action = some next) :
    next.Follows
      (if retry.threads.connects action then 0 else attempts + retry.attempts action) := by
  cases step_backoff taken with
  | @reads netMgmtRet pc idle =>
      have none : retry.attempts (.retry netMgmtRet) = 0 := by simp [RetryThreads.attempts, idle]
      rw [none]
      constructor
      · exact follows.shared
      · intro backoffS loaded
        exact Option.some.inj loaded
  | @writes netMgmtRet backoffS pc loaded =>
      have one : retry.attempts (.retry netMgmtRet) = 1 := by
        simp [RetryThreads.attempts, pc, loaded]
      rw [one]
      constructor
      · exact Escalated.doubled (follows.loaded _ loaded ▸ follows.shared)
      · intro backoffS loaded
        contradiction
  | @retries netMgmtRet threads pc moved kept =>
      have none : retry.attempts (.retry netMgmtRet) = 0 := by simp [RetryThreads.attempts, pc]
      rw [none]
      constructor
      · exact kept ▸ follows.shared
      · intro backoffS loaded
        exact kept.trans (follows.loaded backoffS loaded)
  | starts moved kept elsewhere =>
      constructor
      · exact kept ▸ follows.shared
      · intro backoffS loaded
        exact kept.trans (follows.loaded backoffS loaded)
  | @handles action event threads handled station elsewhere =>
      have backoff := Station.step_staRetryBackoffS retry.threads.station event
      have none : retry.attempts action = 0 := by
        cases action with
        | main netMgmtRet | retry netMgmtRet => contradiction
        | result event | event event => rfl
      rw [none]
      cases connects : retry.threads.connects action with
      | true =>
          have up : event.staLink retry.threads.station.manager.staIface = some .up := by
            simpa [StationThreads.connects, handled] using connects
          rw [if_pos up] at backoff
          constructor
          · rw [station, backoff]
            exact escalated_zero
          · intro backoffS loaded
            have idle := undisturbed (by rw [loaded]; rfl)
            rw [connects] at idle
            contradiction
      | false =>
          have other : event.staLink retry.threads.station.manager.staIface ≠ some .up := by
            simpa [StationThreads.connects, handled] using connects
          rw [if_neg other] at backoff
          constructor
          · rw [station, backoff]
            exact follows.shared
          · intro backoffS loaded
            rw [station, backoff]
            exact follows.loaded backoffS loaded

theorem follows_of_run {start finish : RetryThreads} {actions : List StationAction}
    (initial : start.Initial) (undisturbed : (machine config).Along Undisturbed start actions)
    (run : (machine config).exec start actions = some finish) :
    finish.Follows (attemptsSinceConnect ((machine config).trail start actions)) := by
  apply Machine.along_induction (motive := fun actions finish =>
    finish.Follows (attemptsSinceConnect ((machine config).trail start actions))) _ _
    undisturbed run
  · exact Follows.of_initial initial
  · intro actions retry action next reached follows undisturbed taken
    rw [Machine.trail_concat action reached, attemptsSinceConnect_concat]
    exact follows.step undisturbed taken

theorem scheduled_of_run {start finish : RetryThreads} {actions : List StationAction}
    (initial : start.Initial) (run : (machine config).exec start actions = some finish) :
    finish.Scheduled :=
  Machine.Reachable.invariant Scheduled (fun _ => Scheduled.of_initial)
    (fun _ _ _ scheduled taken => scheduled.step taken) ⟨start, actions, initial, run⟩

/-- The back-off is always five seconds doubled some number of times, up to a minute.  The
number is that of the attempts since the last successful connect result, unless such a result
has fallen between the two steps of a doubling. -/
theorem backoffFollows (config : Config) {start finish : RetryThreads}
    {actions : List StationAction} (initial : (machine config).init start)
    (run : (machine config).exec start actions = some finish) :
    (∃ attempts, finish.threads.station.manager.staRetryBackoffS.toNat =
      backoff 5 60 (attempts + 1)) ∧
    ((machine config).Along Undisturbed start actions →
      finish.threads.station.manager.staRetryBackoffS.toNat =
        backoff 5 60 (attemptsSinceConnect ((machine config).trail start actions) + 1)) := by
  constructor
  · exact (scheduled_of_run initial run).shared
  · intro undisturbed
    exact (follows_of_run initial undisturbed run).shared

theorem backoffFollows_unanswered :
    ∃ finish, (machine StationThreads.namedStation).exec bootRetry unanswered = some finish ∧
      finish.threads.station.manager.staRetryBackoffS.toNat =
        backoff 5 60 (attemptsSinceConnect
          ((machine StationThreads.namedStation).trail bootRetry unanswered) + 1) := by
  have undisturbed : (machine StationThreads.namedStation).Along Undisturbed bootRetry
      unanswered := by decide
  exact ⟨_, rfl, (backoffFollows StationThreads.namedStation bootRetry_initial rfl).2 undisturbed⟩

/-- The second attempt succeeds, but its result is handled after the back-off has been read,
and the reset is overwritten. -/
def resetOverwritten : List StationAction :=
  List.replicate 9 (.main 0) ++ [.result (.connectResult (some 1))] ++
    List.replicate 13 (.retry 0) ++ [.result (.connectResult (some 1))] ++
    List.replicate 10 (.retry 0) ++ [.result (.connectResult (some 0)), .retry 0]

theorem backoff_overwritten :
    ((machine StationThreads.namedStation).exec bootRetry resetOverwritten).map
        (·.threads.station.manager.staRetryBackoffS) = some 20 ∧
      backoff 5 60 (attemptsSinceConnect
        ((machine StationThreads.namedStation).trail bootRetry resetOverwritten) + 1) = 10 := by
  decide

/-- No successful connect result is handled. -/
def StaysDown (retry : RetryThreads) (action : StationAction) : Prop :=
  retry.threads.connects action = false

instance decidableStaysDown (retry : RetryThreads) (action : StationAction) :
    Decidable (retry.StaysDown action) :=
  inferInstanceAs (Decidable (_ = false))

/-- At least so long has the retry thread slept in the attempt it is in. -/
def attemptMs (backoffMs : Nat) : RetryPc → Nat
  | .recheck | .disconnect | .settle => backoffMs
  | .connect _ | .doubleBackoff => backoffMs + 500
  | _ => 0

theorem attemptMs_of_leads {pc pc' : RetryPc} (leads : StationThreads.RetryLeads pc pc')
    (backoffMs : Nat) :
    attemptMs backoffMs pc' ≤ attemptMs backoffMs pc + leastSleepMs backoffMs pc := by
  cases leads with
  | leaves | begins | waits | enabled | idles | checks | backsOff | rechecks | busy
  | disconnects | settles | connects | inside leads | finished leads | doubles =>
      simp [attemptMs, leastSleepMs]

/-- What a number of attempts takes at least. -/
def escalationMs (attempts : Nat) : Nat := 1000 * backoffTotal 5 60 attempts + 500 * attempts

theorem escalationMs_succ (attempts : Nat) :
    escalationMs (attempts + 1) =
      escalationMs attempts + (1000 * backoff 5 60 (attempts + 1) + 500) := by
  rw [escalationMs, escalationMs, backoffTotal]
  omega

/-- The attempts so far, and the one the thread is in, have been slept for. -/
structure SleptFor (retry : RetryThreads) (attempts sleptMs : Nat) : Prop where
  follows : retry.Follows attempts
  slept : escalationMs attempts +
    attemptMs (1000 * backoff 5 60 (attempts + 1)) retry.threads.retry ≤ sleptMs

theorem SleptFor.of_initial (initial : retry.Initial) : retry.SleptFor 0 0 := by
  constructor
  · exact Follows.of_initial initial
  · rw [initial.1.2.2.2]
    exact Nat.le_refl 0

/-- A step that ends no attempt and leaves the retry thread where it is. -/
theorem SleptFor.congr {attempts sleptMs : Nat} (sleptFor : retry.SleptFor attempts sleptMs)
    (follows : next.Follows attempts) (elsewhere : next.threads.retry = retry.threads.retry)
    (more : Nat) : next.SleptFor attempts (sleptMs + more) := by
  constructor
  · exact follows
  · rw [elsewhere]
    exact Nat.le_add_right_of_le sleptFor.slept

theorem SleptFor.step {attempts sleptMs : Nat} (sleptFor : retry.SleptFor attempts sleptMs)
    (down : retry.StaysDown action) (taken : retry.step config action = some next) :
    next.SleptFor (attempts + retry.attempts action) (sleptMs + retry.sleptMs action) := by
  have follows := sleptFor.follows.step (fun _ => down) taken
  rw [down, if_neg Bool.false_ne_true] at follows
  cases step_backoff taken with
  | @reads netMgmtRet pc idle =>
      have none : retry.attempts (.retry netMgmtRet) = 0 := by simp [RetryThreads.attempts, idle]
      rw [none] at follows ⊢
      exact sleptFor.congr follows rfl _
  | @writes netMgmtRet backoffS pc loaded =>
      have one : retry.attempts (.retry netMgmtRet) = 1 := by
        simp [RetryThreads.attempts, pc, loaded]
      have slept := sleptFor.slept
      rw [pc, attemptMs, ← escalationMs_succ] at slept
      rw [one] at follows ⊢
      exact ⟨follows, Nat.le_add_right_of_le slept⟩
  | @retries netMgmtRet threads pc moved kept =>
      have none : retry.attempts (.retry netMgmtRet) = 0 := by simp [RetryThreads.attempts, pc]
      have leads := attemptMs_of_leads (StationThreads.stepRetry_leads moved)
        (1000 * backoff 5 60 (attempts + 1))
      have current : 1000 * backoff 5 60 (attempts + 1) ≤
          retry.threads.station.manager.staRetryBackoffS.toNat * 1000 := by
        rw [sleptFor.follows.shared, Nat.mul_comm]
      have sleeps := retry.leastSleepMs_le current netMgmtRet
      have slept := sleptFor.slept
      rw [none, Nat.add_zero] at follows ⊢
      constructor
      · exact follows
      · dsimp only
        omega
  | starts moved kept elsewhere => exact sleptFor.congr follows elsewhere _
  | @handles action event threads handled station elsewhere =>
      have none : retry.attempts action = 0 := by
        cases action with
        | main netMgmtRet | retry netMgmtRet => contradiction
        | result event | event event => rfl
      rw [none] at follows ⊢
      exact sleptFor.congr follows elsewhere _

/-- While the station does not come up, the attempts take longer and longer: those of a run
have been slept for with the back-offs of five seconds, of ten, and so on up to a minute, and
half a second each after the disconnect. -/
theorem attemptsEscalate (config : Config) {start finish : RetryThreads}
    {actions : List StationAction} (initial : (machine config).init start)
    (down : (machine config).Along StaysDown start actions)
    (run : (machine config).exec start actions = some finish) :
    1000 * backoffTotal 5 60 ((machine config).total attempts start actions) +
        500 * (machine config).total attempts start actions ≤
      (machine config).total sleptMs start actions := by
  have sleptFor : finish.SleptFor ((machine config).total attempts start actions)
      ((machine config).total sleptMs start actions) := by
    apply Machine.along_induction (motive := fun actions finish =>
      finish.SleptFor ((machine config).total attempts start actions)
        ((machine config).total sleptMs start actions)) _ _ down run
    · exact SleptFor.of_initial initial
    · intro actions retry action next reached sleptFor down taken
      rw [Machine.total_concat action reached, Machine.total_concat action reached]
      exact sleptFor.step down taken
  exact Nat.le_of_add_right_le sleptFor.slept

theorem attemptsEscalate_unanswered :
    1000 * backoffTotal 5 60
          ((machine StationThreads.namedStation).total attempts bootRetry unanswered) +
        500 * (machine StationThreads.namedStation).total attempts bootRetry unanswered ≤
      (machine StationThreads.namedStation).total sleptMs bootRetry unanswered := by
  have down : (machine StationThreads.namedStation).Along StaysDown bootRetry unanswered := by
    decide
  exact attemptsEscalate StationThreads.namedStation bootRetry_initial down rfl

end RetryThreads

end EspNmeaBridge
