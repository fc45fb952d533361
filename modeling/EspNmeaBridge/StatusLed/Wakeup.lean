import EspNmeaBridge.Library.Machine
import EspNmeaBridge.StatusLed.Driver

/-!
# Reports and the status LED thread

The threads that report to the status LED, and the thread that renders it, step by step.
The policy state is shared under `status_led_lock`.  A report of a frame also gives the
semaphore `status_led_wake`, on which the LED thread waits between two iterations.  The
semaphore holds no more than one wake-up, and further ones are lost, but the thread never
sleeps on a report that it has not rendered.
-/

namespace EspNmeaBridge

open Library StatusLed

/-- The reports that give `status_led_wake`: those that start a flash. -/
def StatusLedEvent.wakes : StatusLedEvent → Bool
  | .nmeaFrameReceived | .nmeaFrameForwarded | .nmeaSendFailed => true
  | .tcpNmeaSessionStarted | .tcpNmeaSessionEnded | .tcpNmeaClientConnecting _ => false

/-- Where a thread stands in one of the functions of `status_led.h`. -/
inductive ReportPc where
  | idle
  /-- `k_mutex_lock`, the policy function, and `k_mutex_unlock`.  The uptime has been read. -/
  | updating (event : StatusLedEvent) (elapsedMs : UInt32)
  /-- `k_sem_give` -/
  | giving
  deriving DecidableEq

/-- Where `status_led_thread` stands in an iteration. -/
inductive StatusLedPc where
  /-- `k_uptime_get` -/
  | reading
  /-- `status_led_render` -/
  | rendering (readMs : Nat)
  /-- `led_strip_update_rgb`, if the colour is to be written, with what follows it. -/
  | writing (readMs : Nat) (rendered : StatusLedRgb)
  /-- `k_sem_take`, until the timeout. -/
  | taking (timeoutMs : Nat)
  deriving DecidableEq

/-- Between `status_led_render` and the next iteration. -/
def StatusLedPc.hasRendered : StatusLedPc → Bool
  | .writing .. | .taking _ => true
  | .reading | .rendering _ => false

/-- The status LED and the threads `ι` that report to it.  What the LED thread rendered
last, when it had read the uptime, and when the policy state was last updated, are kept
beside. -/
structure StatusLedThreads (ι : Type) where
  startedMs : Int64 := 0
  uptimeMs : Nat := 0
  state : StatusLedPolicyState := {}
  wake : Bool := false
  reporters : ι → ReportPc := fun _ => .idle
  pc : StatusLedPc := .reading
  run : LedRun := {}
  seen : StatusLedPolicyState := {}
  seenMs : Nat := 0
  updatedMs : Nat := 0

/-- The LED thread goes on, or its wait times out; a report begins, or goes on; time
passes.  `ret` is what `led_strip_update_rgb` returns, if it is called. -/
inductive StatusLedAction (ι : Type) where
  | led (ret : Int)
  | timeout
  | report (id : ι) (event : StatusLedEvent)
  | reporter (id : ι)
  | pass (ms : Nat)

namespace StatusLedThreads

variable {ι : Type}

section Model

variable [DecidableEq ι] (threads : StatusLedThreads ι)

/-- `STATUS_LED_UPDATE_MS` -/
def updateMs : Nat := 100

/-- `(uint32_t)(now_ms - status_led_started_ms)` -/
def elapsedMs (readMs : Nat) : UInt32 :=
  (Int64.ofNat readMs - threads.startedMs).toUInt64.toUInt32

/-- `status_led_thread` -/
def stepLed (ret : Int) : Option (StatusLedThreads ι) :=
  match threads.pc with
  | .reading => some { threads with pc := .rendering threads.uptimeMs }
  | .rendering readMs =>
      some { threads with
        pc := .writing readMs (render threads.state (threads.elapsedMs readMs))
        seen := threads.state
        seenMs := readMs }
  | .writing readMs rendered =>
      some { threads with
        run := threads.run.step { nowMs := Int64.ofNat readMs, rendered, ret }
        pc := .taking (threads.uptimeMs + updateMs) }
  | .taking _ =>
      if threads.wake then some { threads with wake := false, pc := .reading } else none

/-- The wait for `status_led_wake` is over, and nobody has given it. -/
def stepTimeout : Option (StatusLedThreads ι) :=
  match threads.pc with
  | .taking timeoutMs =>
      if threads.wake = false ∧ timeoutMs ≤ threads.uptimeMs then
        some { threads with pc := .reading }
      else
        none
  | .reading | .rendering _ | .writing .. => none

def setReporter (id : ι) (pc : ReportPc) : StatusLedThreads ι :=
  { threads with reporters := Function.update threads.reporters id pc }

/-- A report goes on. -/
def stepReporter (id : ι) : Option (StatusLedThreads ι) :=
  match threads.reporters id with
  | .idle => none
  | .updating event elapsedMs =>
      some { threads.setReporter id (if event.wakes then .giving else .idle) with
        state := event.apply threads.state elapsedMs
        updatedMs := threads.uptimeMs }
  | .giving => some { threads.setReporter id .idle with wake := true }

def step : StatusLedAction ι → Option (StatusLedThreads ι)
  | .led ret => threads.stepLed ret
  | .timeout => threads.stepTimeout
  | .report id event =>
      match threads.reporters id with
      | .idle =>
          some (threads.setReporter id (.updating event (threads.elapsedMs threads.uptimeMs)))
      | .updating .. | .giving => none
  | .reporter id => threads.stepReporter id
  | .pass ms => some { threads with uptimeMs := threads.uptimeMs + ms }

end Model

/-- `status_led_start` has read the uptime and created the thread. -/
def Initial (threads : StatusLedThreads ι) : Prop :=
  ∃ startedMs uptimeMs state wake, threads = { startedMs, uptimeMs, state, wake }

def machine (ι : Type) [DecidableEq ι] : Machine (StatusLedThreads ι) (StatusLedAction ι) where
  init := Initial
  step := step

section Moves

variable [DecidableEq ι] {threads next : StatusLedThreads ι} {action : StatusLedAction ι}

/-- What a step does. -/
inductive Moves (threads : StatusLedThreads ι) : StatusLedAction ι → StatusLedThreads ι → Prop where
  | reads (pc : threads.pc = .reading) (ret : Int) :
      Moves threads (.led ret) { threads with pc := .rendering threads.uptimeMs }
  | renders {readMs : Nat} (pc : threads.pc = .rendering readMs) (ret : Int) :
      Moves threads (.led ret)
        { threads with
          pc := .writing readMs (render threads.state (threads.elapsedMs readMs))
          seen := threads.state
          seenMs := readMs }
  | writes {readMs : Nat} {rendered : StatusLedRgb} (pc : threads.pc = .writing readMs rendered)
      (ret : Int) :
      Moves threads (.led ret)
        { threads with
          run := threads.run.step { nowMs := Int64.ofNat readMs, rendered, ret }
          pc := .taking (threads.uptimeMs + updateMs) }
  | wakes {timeoutMs : Nat} (pc : threads.pc = .taking timeoutMs) (wake : threads.wake = true)
      (ret : Int) :
      Moves threads (.led ret) { threads with wake := false, pc := .reading }
  | timesOut {timeoutMs : Nat} (pc : threads.pc = .taking timeoutMs)
      (due : timeoutMs ≤ threads.uptimeMs) :
      Moves threads .timeout { threads with pc := .reading }
  | begins (id : ι) (event : StatusLedEvent) (idle : threads.reporters id = .idle) :
      Moves threads (.report id event)
        (threads.setReporter id (.updating event (threads.elapsedMs threads.uptimeMs)))
  | updates (id : ι) {event : StatusLedEvent} {elapsedMs : UInt32}
      (reporter : threads.reporters id = .updating event elapsedMs) :
      Moves threads (.reporter id)
        { threads.setReporter id (if event.wakes then .giving else .idle) with
          state := event.apply threads.state elapsedMs
          updatedMs := threads.uptimeMs }
  | gives (id : ι) (reporter : threads.reporters id = .giving) :
      Moves threads (.reporter id) { threads.setReporter id .idle with wake := true }
  | passes (ms : Nat) :
      Moves threads (.pass ms) { threads with uptimeMs := threads.uptimeMs + ms }

theorem step_moves (taken : threads.step action = some next) : threads.Moves action next := by
  cases action with
  | led ret =>
      simp only [step, stepLed] at taken
      cases pc : threads.pc with
      | reading | rendering | writing =>
          simp only [pc, Option.some.injEq] at taken
          subst taken
          first | exact .reads pc ret | exact .renders pc ret | exact .writes pc ret
      | taking timeoutMs =>
          simp only [pc, Option.ite_none_right_eq_some, Option.some.injEq] at taken
          obtain ⟨wake, rfl⟩ := taken
          exact .wakes pc wake ret
  | timeout =>
      simp only [step, stepTimeout] at taken
      cases pc : threads.pc with
      | reading | rendering | writing => simp [pc] at taken
      | taking timeoutMs =>
          simp only [pc, Option.ite_none_right_eq_some, Option.some.injEq] at taken
          obtain ⟨⟨_, due⟩, rfl⟩ := taken
          exact .timesOut pc due
  | report id event =>
      simp only [step] at taken
      cases reporter : threads.reporters id with
      | updating | giving => simp [reporter] at taken
      | idle =>
          simp only [reporter, Option.some.injEq] at taken
          subst taken
          exact .begins id event reporter
  | reporter id =>
      simp only [step, stepReporter] at taken
      cases reporter : threads.reporters id with
      | idle => simp [reporter] at taken
      | updating | giving =>
          simp only [reporter, Option.some.injEq] at taken
          subst taken
          first | exact .updates id reporter | exact .gives id reporter
  | pass ms =>
      cases taken
      exact .passes ms

end Moves

/-- The flashes of two states are the same. -/
def SameFlashes (seen state : StatusLedPolicyState) : Prop :=
  ∀ flash : Flash, flash.active seen = flash.active state ∧
    flash.untilMs seen = flash.untilMs state

/-- The flashes have been rendered as they are, or the semaphore is given or about to be. -/
def Noticed (threads : StatusLedThreads ι) : Prop :=
  threads.wake = true ∨ (∃ id, threads.reporters id = .giving) ∨
    SameFlashes threads.seen threads.state

/-- A thread that is not about to give the semaphore goes on with its report. -/
theorem Noticed.setReporter [DecidableEq ι] {threads : StatusLedThreads ι}
    (noticed : threads.Noticed) {id : ι} (other : threads.reporters id ≠ .giving) (pc : ReportPc) :
    (threads.setReporter id pc).Noticed := by
  rcases noticed with wake | ⟨giver, giving⟩ | same
  · exact .inl wake
  · right
    left
    use giver
    have different : giver ≠ id := fun equal => other (equal ▸ giving)
    simpa only [StatusLedThreads.setReporter, Function.update_of_ne different] using giving
  · exact .inr (.inr same)

/-- Only the reports that give the semaphore start a flash. -/
theorem sameFlashes_apply {seen state : StatusLedPolicyState} (same : SameFlashes seen state)
    {event : StatusLedEvent} (silent : event.wakes = false) (elapsedMs : UInt32) :
    SameFlashes seen (event.apply state elapsedMs) := by
  intro flash
  have other : event ≠ flash.event := by
    rintro rfl
    cases flash <;> contradiction
  obtain ⟨active, untilMs⟩ := flash.apply_of_ne other state elapsedMs
  rw [active, untilMs]
  exact same flash

/-- The uptime is far from the end of `int64_t`. -/
def InRange (threads : StatusLedThreads ι) : Prop := threads.uptimeMs + 5000 < 2 ^ 63

/-- What was rendered last is shown, and a report that it does not show has given the
semaphore or is about to. -/
structure UpToDate (threads : StatusLedThreads ι) : Prop where
  read : ∀ readMs, threads.pc = .rendering readMs → readMs ≤ threads.uptimeMs
  seenMs_le : threads.seenMs ≤ threads.uptimeMs
  rendered : ∀ readMs rendered, threads.pc = .writing readMs rendered →
    readMs = threads.seenMs ∧
      rendered = render threads.seen (threads.elapsedMs threads.seenMs)
  noticed : threads.pc.hasRendered = true → threads.Noticed
  tracks : threads.InRange → threads.run.Tracks
  shown : ∀ timeoutMs, threads.pc = .taking timeoutMs → threads.InRange →
    shownColour threads.run.updates =
        some (render threads.seen (threads.elapsedMs threads.seenMs)) ∨
      FailurePending threads.run.updates threads.seenMs

namespace UpToDate

variable {threads next : StatusLedThreads ι}

theorem of_initial (initial : threads.Initial) : UpToDate threads := by
  obtain ⟨startedMs, uptimeMs, state, wake, rfl⟩ := initial
  constructor
  case seenMs_le => exact Nat.zero_le uptimeMs
  case tracks => exact fun _ => .initial
  all_goals
    intros
    contradiction

/-- At the end of an iteration what was rendered is shown, unless a failure is pending. -/
theorem writes (upToDate : UpToDate threads) {readMs : Nat} {rendered : StatusLedRgb}
    (pc : threads.pc = .writing readMs rendered) (ret : Int) (inRange : threads.InRange) :
    let iteration : StatusLedIteration := { nowMs := Int64.ofNat readMs, rendered, ret }
    (threads.run.step iteration).Tracks ∧
      (shownColour (threads.run.step iteration).updates =
          some (render threads.seen (threads.elapsedMs threads.seenMs)) ∨
        FailurePending (threads.run.step iteration).updates threads.seenMs) := by
  obtain ⟨rfl, rfl⟩ := upToDate.rendered readMs rendered pc
  intro iteration
  have le := upToDate.seenMs_le
  unfold InRange at inRange
  have time : iteration.nowMs.toInt = threads.seenMs := Int64.toInt_ofNat_of_lt (by omega)
  have nonneg : 0 ≤ iteration.nowMs.toInt := by
    rw [time]
    exact Int.natCast_nonneg _
  constructor
  · apply (upToDate.tracks inRange).step nonneg
    omega
  · have shown := LedRun.shown_or_pending (upToDate.tracks inRange) nonneg
    rwa [time] at shown

theorem step [DecidableEq ι] {action : StatusLedAction ι} (upToDate : UpToDate threads)
    (moves : threads.Moves action next) : UpToDate next := by
  have ⟨read, seenMs_le, rendered, noticed, tracks, shown⟩ := upToDate
  cases moves with
  | reads pc =>
      constructor
      case read =>
        rintro readMs same
        cases same
        exact Nat.le_refl _
      case seenMs_le => exact seenMs_le
      case tracks => exact tracks
      all_goals
        intros
        contradiction
  | renders pc =>
      constructor
      case seenMs_le => exact read _ pc
      case rendered =>
        intro readMs rendered same
        cases same
        exact ⟨rfl, rfl⟩
      case noticed => exact fun _ => .inr (.inr fun flash => ⟨rfl, rfl⟩)
      case tracks => exact tracks
      all_goals
        intros
        contradiction
  | writes pc ret =>
      constructor
      case seenMs_le => exact seenMs_le
      case noticed => exact fun _ => noticed (by rw [pc]; rfl)
      case tracks => exact fun inRange => (upToDate.writes pc ret inRange).1
      case shown => exact fun _ _ inRange => (upToDate.writes pc ret inRange).2
      all_goals
        intros
        contradiction
  | wakes pc | timesOut pc =>
      constructor
      case seenMs_le => exact seenMs_le
      case tracks => exact tracks
      all_goals
        intros
        contradiction
  | begins id event idle =>
      refine ⟨read, seenMs_le, rendered, fun after => ?_, tracks, shown⟩
      exact (noticed after).setReporter (by simp [idle]) _
  | @updates id event elapsedMs reporter =>
      refine ⟨read, seenMs_le, rendered, fun after => ?_, tracks, shown⟩
      cases wakes : event.wakes with
      | true => exact .inr (.inl ⟨id, by simp [setReporter]⟩)
      | false =>
          have other : threads.reporters id ≠ .giving := by simp [reporter]
          rcases (noticed after).setReporter other .idle with wake | giving | same
          · exact .inl wake
          · exact .inr (.inl giving)
          · exact .inr (.inr (sameFlashes_apply same wakes elapsedMs))
  | gives id reporter => exact ⟨read, seenMs_le, rendered, fun _ => .inl rfl, tracks, shown⟩
  | passes ms =>
      have earlier : InRange { threads with uptimeMs := threads.uptimeMs + ms } →
          threads.InRange := by
        unfold InRange
        intro later
        exact Nat.lt_of_le_of_lt (Nat.add_le_add_right (Nat.le_add_right _ _) _) later
      constructor
      case read => exact fun readMs pc => Nat.le_add_right_of_le (read readMs pc)
      case seenMs_le => exact Nat.le_add_right_of_le seenMs_le
      case rendered => exact rendered
      case noticed => exact noticed
      case tracks => exact fun inRange => tracks (earlier inRange)
      case shown => exact fun timeoutMs pc inRange => shown timeoutMs pc (earlier inRange)

end UpToDate

theorem upToDate [DecidableEq ι] {threads : StatusLedThreads ι}
    (reachable : (machine ι).Reachable threads) : UpToDate threads := by
  apply Machine.Reachable.invariant UpToDate _ _ reachable
  · exact fun _ initial => .of_initial initial
  · exact fun _ _ _ upToDate taken => upToDate.step (step_moves taken)

/-- While a flash is lit, nothing else matters. -/
theorem render_of_sameFlashes {seen state : StatusLedPolicyState} (same : SameFlashes seen state)
    {flash : Flash} {elapsedMs : UInt32} (lit : flash.lit state elapsedMs = true) :
    render seen elapsedMs = render state elapsedMs := by
  have error := same .error
  have forwarded := same .forwarded
  have activity := same .activity
  simp only [Flash.active, Flash.untilMs] at error forwarded activity
  simp only [render, error, forwarded, activity]
  cases flash with
  | error | forwarded | activity =>
      simp only [Flash.lit, Flash.active, Flash.untilMs] at lit
      simp [lit]

/-- What is known of the strip while the LED thread sleeps. -/
structure ReportsShown (threads : StatusLedThreads ι) : Prop where
  /-- Every report of a frame has been rendered. -/
  rendered : SameFlashes threads.seen threads.state
  /-- What was rendered is shown, unless a failed update is waiting to be retried. -/
  shown : shownColour threads.run.updates =
      some (render threads.seen (threads.elapsedMs threads.seenMs)) ∨
    FailurePending threads.run.updates threads.seenMs
  /-- A flash that is lit is shown as the present state has it. -/
  flashes : ∀ flash : Flash, flash.lit threads.state (threads.elapsedMs threads.seenMs) = true →
    shownColour threads.run.updates =
        some (render threads.state (threads.elapsedMs threads.seenMs)) ∨
      FailurePending threads.run.updates threads.seenMs

/-- The LED thread does not sleep on a report of a frame, however many threads report at
once, and however many wake-ups are lost. -/
theorem reportsShown [DecidableEq ι] {threads : StatusLedThreads ι} {timeoutMs : Nat}
    (reachable : (machine ι).Reachable threads) (inRange : threads.InRange)
    (sleeps : threads.pc = .taking timeoutMs) (asleep : threads.wake = false)
    (given : ∀ id, threads.reporters id ≠ .giving) : ReportsShown threads := by
  have upToDate := upToDate reachable
  have same : SameFlashes threads.seen threads.state := by
    rcases upToDate.noticed (by rw [sleeps]; rfl) with wake | ⟨id, giving⟩ | same
    · rw [asleep] at wake
      contradiction
    · exact absurd giving (given id)
    · exact same
  have shown := upToDate.shown timeoutMs sleeps inRange
  constructor
  · exact same
  · exact shown
  · intro flash lit
    rwa [← render_of_sameFlashes same lit]

/-- Two threads report while the LED thread writes an older colour, and the second wake-up
is lost. -/
def overlapping : List (StatusLedAction Bool) :=
  [.led 0, .led 0, .report true .nmeaFrameReceived, .reporter true,
    .report false .nmeaSendFailed, .reporter true, .reporter false, .reporter false, .led 0,
    .led 0, .led 0, .led 0, .led 0]

theorem reportsShown_overlapping :
    ∃ finish, (machine Bool).exec {} overlapping = some finish ∧
      shownColour finish.run.updates = some errorColour ∧ finish.ReportsShown := by
  have shown : ((machine Bool).exec {} overlapping).any (fun finish =>
      finish.uptimeMs = 0 ∧ finish.pc = .taking 100 ∧ finish.wake = false ∧
        (∀ id, finish.reporters id = .idle) ∧
        shownColour finish.run.updates = some errorColour) = true := by decide
  obtain ⟨finish, run, ends⟩ := (Option.any_eq_true _ _).mp shown
  obtain ⟨uptime, pc, asleep, idle, colour⟩ := of_decide_eq_true ends
  have inRange : finish.InRange := by
    unfold InRange
    omega
  refine ⟨finish, run, colour, reportsShown ⟨{}, overlapping, ⟨_, _, _, _, rfl⟩, run⟩ inRange pc
    asleep ?_⟩
  intro id giving
  rw [idle id] at giving
  contradiction

/-- Time passes only while the LED thread sleeps, and not beyond its timeout: it runs as soon
as it is ready, and takes no time. -/
def Prompt (threads : StatusLedThreads ι) : StatusLedAction ι → Prop
  | .pass ms => threads.wake = false ∧
      ∃ timeoutMs, threads.pc = .taking timeoutMs ∧ threads.uptimeMs + ms ≤ timeoutMs
  | .led _ | .timeout | .report .. | .reporter _ => True

/-- With a prompt LED thread, its readings are of the present while it runs, and a state that it
has not rendered is new. -/
structure Fresh (threads : StatusLedThreads ι) : Prop where
  rendering : ∀ readMs, threads.pc = .rendering readMs → readMs = threads.uptimeMs
  writing : ∀ readMs rendered, threads.pc = .writing readMs rendered →
    threads.seenMs = threads.uptimeMs
  taking : ∀ timeoutMs, threads.pc = .taking timeoutMs →
    timeoutMs = threads.seenMs + updateMs ∧ threads.uptimeMs ≤ timeoutMs
  seen : threads.pc.hasRendered = true →
    threads.seen = threads.state ∨ threads.seenMs ≤ threads.updatedMs

namespace Fresh

variable {threads next : StatusLedThreads ι}

theorem of_initial (initial : threads.Initial) : Fresh threads := by
  obtain ⟨startedMs, uptimeMs, state, wake, rfl⟩ := initial
  constructor <;>
    · intros
      contradiction

/-- The steps of a prompt LED thread, and of the others. -/
theorem step [DecidableEq ι] {action : StatusLedAction ι} (fresh : Fresh threads)
    (seenMs_le : threads.seenMs ≤ threads.uptimeMs) (prompt : threads.Prompt action)
    (moves : threads.Moves action next) : Fresh next := by
  have ⟨rendering, writing, taking, seen⟩ := fresh
  cases moves with
  | reads pc =>
      constructor
      case rendering =>
        rintro readMs same
        cases same
        rfl
      all_goals
        intros
        contradiction
  | renders pc =>
      constructor
      case writing => exact fun _ _ _ => rendering _ pc
      case seen => exact fun _ => .inl rfl
      all_goals
        intros
        contradiction
  | writes pc =>
      have present := writing _ _ pc
      constructor
      case taking =>
        rintro timeoutMs same
        cases same
        rw [present]
        exact ⟨rfl, Nat.le_add_right _ _⟩
      case seen => exact fun _ => seen (by rw [pc]; rfl)
      all_goals
        intros
        contradiction
  | wakes pc | timesOut pc =>
      constructor <;>
        · intros
          contradiction
  | begins => exact ⟨rendering, writing, taking, seen⟩
  | updates => exact ⟨rendering, writing, taking, fun _ => .inr seenMs_le⟩
  | gives => exact ⟨rendering, writing, taking, seen⟩
  | passes ms =>
      obtain ⟨_, timeoutMs, pc, early⟩ := prompt
      constructor
      case rendering =>
        intro readMs other
        rw [pc] at other
        contradiction
      case writing =>
        intro readMs rendered other
        rw [pc] at other
        contradiction
      case taking =>
        intro timeoutMs' same
        obtain ⟨timeout, _⟩ := taking timeoutMs' same
        rw [pc] at same
        cases same
        exact ⟨timeout, early⟩
      case seen => exact seen

end Fresh

/-- What is known of the strip while a prompt LED thread sleeps. -/
structure ChangesShown (threads : StatusLedThreads ι) : Prop where
  recent : threads.uptimeMs ≤ threads.seenMs + updateMs
  /-- A state that lasts longer than `STATUS_LED_UPDATE_MS` is shown. -/
  shown : threads.updatedMs + updateMs < threads.uptimeMs →
    shownColour threads.run.updates =
        some (render threads.state (threads.elapsedMs threads.seenMs)) ∨
      FailurePending threads.run.updates threads.seenMs

/-- A prompt LED thread follows the policy state, also where a report does not wake it. -/
theorem changesShown [DecidableEq ι] {start finish : StatusLedThreads ι}
    {actions : List (StatusLedAction ι)} {timeoutMs : Nat} (initial : start.Initial)
    (prompt : (machine ι).Along Prompt start actions)
    (run : (machine ι).exec start actions = some finish) (inRange : finish.InRange)
    (sleeps : finish.pc = .taking timeoutMs) : ChangesShown finish := by
  obtain ⟨upToDate, fresh⟩ : UpToDate finish ∧ Fresh finish := by
    apply Machine.invariant_of_along (fun threads : StatusLedThreads ι =>
      UpToDate threads ∧ Fresh threads) Prompt _ ⟨.of_initial initial, .of_initial initial⟩
      prompt run
    intro threads action next holds meets taken
    have moves := step_moves taken
    exact ⟨holds.1.step moves, holds.2.step holds.1.seenMs_le meets moves⟩
  obtain ⟨timeout, recent⟩ := fresh.taking timeoutMs sleeps
  rw [timeout] at recent
  constructor
  · exact recent
  · intro lasting
    have same : finish.seen = finish.state := by
      apply (fresh.seen (by rw [sleeps]; rfl)).resolve_right
      omega
    rw [← same]
    exact upToDate.shown timeoutMs sleeps inRange

/-- A session starts while the LED thread sleeps. -/
def sessionStarts : List (StatusLedAction Unit) :=
  [.led 0, .led 0, .led 0, .report () .tcpNmeaSessionStarted, .reporter (), .pass 100, .timeout,
    .led 0, .led 0, .led 0, .pass 50]

theorem changesShown_sessionStarts :
    ∃ finish, (machine Unit).exec {} sessionStarts = some finish ∧
      shownColour finish.run.updates = some ⟨0, 16, 0⟩ ∧ finish.ChangesShown := by
  have prompt : (machine Unit).Along Prompt {} sessionStarts :=
    .intro trivial (.intro trivial (.intro trivial (.intro trivial (.intro trivial
      (.intro ⟨rfl, 100, rfl, Nat.le_refl 100⟩ (.intro trivial (.intro trivial (.intro trivial
        (.intro trivial (.intro ⟨rfl, 200, rfl, by decide⟩ trivial))))))))))
  have shown : ((machine Unit).exec {} sessionStarts).any (fun finish =>
      finish.uptimeMs = 150 ∧ finish.pc = .taking 200 ∧
        shownColour finish.run.updates = some ⟨0, 16, 0⟩) = true := by decide
  obtain ⟨finish, run, ends⟩ := (Option.any_eq_true _ _).mp shown
  obtain ⟨uptime, pc, colour⟩ := of_decide_eq_true ends
  have inRange : finish.InRange := by
    unfold InRange
    omega
  exact ⟨finish, run, colour, changesShown ⟨_, _, _, _, rfl⟩ prompt run inRange pc⟩

end StatusLedThreads

end EspNmeaBridge
