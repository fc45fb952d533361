import EspNmeaBridge.Library.Backoff
import EspNmeaBridge.StatusLed.FlashWindows
import Mathlib.Data.List.DropRight
import Mathlib.Data.List.Induction

/-!
# Retries of the status LED thread

The loop of `status_led_thread`, which writes the rendered colour to the LED strip
when it has changed and waits longer and longer after an update that failed.  The
loop-carried variables are compared with the updates issued so far: the colour that
is shown, the failures since the last success, and the earliest time of the next
update are functions of them.
-/

namespace EspNmeaBridge

open Library

namespace StatusLed

def retryInitialMs : UInt32 := 1000
def retryMaxMs : UInt32 := 5000

/-- `status_led_rgb_equal` -/
def rgbEqual (a b : StatusLedRgb) : Bool := a.r == b.r && a.g == b.g && a.b == b.b

/-- The loop of `status_led_retry_delay_ms`, by recursion on `failed_attempts`. -/
def retryDelayLoop : Nat → UInt32 → UInt32
  | failedAttempts + 2, delayMs =>
      if delayMs < retryMaxMs then retryDelayLoop (failedAttempts + 1) (delayMs * 2) else delayMs
  | _, delayMs => delayMs

/-- `status_led_retry_delay_ms` -/
def retryDelayMs (failedAttempts : UInt8) : UInt32 :=
  let delayMs := retryDelayLoop failedAttempts.toNat retryInitialMs
  if retryMaxMs < delayMs then retryMaxMs else delayMs

@[simp] theorem rgbEqual_iff {a b : StatusLedRgb} : rgbEqual a b = true ↔ a = b := by
  cases a
  cases b
  simp [rgbEqual, and_assoc]

/-- The delay stays below twice the limit, so doubling it never overflows. -/
theorem retryDelayLoop_toNat (failedAttempts : Nat) (delayMs : UInt32) :
    (retryDelayLoop (failedAttempts + 1) delayMs).toNat =
      doubled 5000 failedAttempts delayMs.toNat := by
  induction failedAttempts generalizing delayMs with
  | zero => rfl
  | succ failedAttempts ih =>
      rw [retryDelayLoop, doubled]
      have limit : delayMs < retryMaxMs ↔ delayMs.toNat < 5000 := UInt32.lt_iff_toNat_lt
      split
      · next small =>
          have below := limit.mp small
          have twice : (delayMs * 2).toNat = delayMs.toNat * 2 := by
            rw [UInt32.toNat_mul]
            apply Nat.mod_eq_of_lt
            change delayMs.toNat * 2 < 2 ^ 32
            omega
          rw [ih, twice, if_pos below]
      · next large => rw [if_neg (fun below => large (limit.mpr below))]

theorem retryDelayLoop_eq_doubled (failedAttempts : Nat) :
    (retryDelayLoop failedAttempts retryInitialMs).toNat =
      doubled 5000 (failedAttempts - 1) 1000 := by
  cases failedAttempts with
  | zero => rfl
  | succ failedAttempts => exact retryDelayLoop_toNat failedAttempts retryInitialMs

/-- The delay doubles from 1000 ms with every failed attempt after the first, up to
5000 ms. -/
theorem retryDelayMs_toNat (failedAttempts : UInt8) :
    (retryDelayMs failedAttempts).toNat = backoff 1000 5000 failedAttempts.toNat := by
  have capped : (retryDelayMs failedAttempts).toNat =
      min (retryDelayLoop failedAttempts.toNat retryInitialMs).toNat 5000 := by
    simp only [retryDelayMs]
    split
    · next above =>
        rw [UInt32.lt_iff_toNat_lt] at above
        exact (Nat.min_eq_right (Nat.le_of_lt above)).symm
    · next below =>
        rw [UInt32.lt_iff_toNat_lt] at below
        exact (Nat.min_eq_left (Nat.le_of_not_lt below)).symm
  rw [capped, retryDelayLoop_eq_doubled, min_doubled, backoff]

theorem retryDelayMs_le (failedAttempts : UInt8) : retryDelayMs failedAttempts ≤ retryMaxMs := by
  rw [UInt32.le_iff_toNat_le, retryDelayMs_toNat]
  exact backoff_le 1000 5000 failedAttempts.toNat

end StatusLed

open StatusLed

/-- The variables `status_led_thread` carries from one iteration to the next. -/
structure StatusLedThread where
  nextRetryMs : Int64 := 0
  failedAttempts : UInt8 := 0
  hasAppliedRgb : Bool := false
  appliedRgb : StatusLedRgb := ⟨0, 0, 0⟩
  deriving DecidableEq, Repr

/-- What one iteration reads: the uptime, the rendered colour, and what
`led_strip_update_rgb` returns if it is called. -/
structure StatusLedIteration where
  nowMs : Int64
  rendered : StatusLedRgb
  ret : Int
  deriving DecidableEq, Repr

/-- An iteration renders the policy at the time since `status_led_start`. -/
def StatusLedIteration.ofPolicy (state : StatusLedPolicyState) (startedMs nowMs : Int64)
    (ret : Int) : StatusLedIteration where
  nowMs
  rendered := render state (nowMs - startedMs).toUInt64.toUInt32
  ret

namespace StatusLedThread

/-- The condition under which an iteration calls `led_strip_update_rgb`. -/
def issues (thread : StatusLedThread) (iteration : StatusLedIteration) : Bool :=
  (!thread.hasAppliedRgb || !rgbEqual iteration.rendered thread.appliedRgb) &&
    decide (thread.nextRetryMs ≤ iteration.nowMs)

/-- One iteration of the loop of `status_led_thread`. -/
def iterate (thread : StatusLedThread) (iteration : StatusLedIteration) : StatusLedThread :=
  if thread.issues iteration then
    if iteration.ret = 0 then
      { appliedRgb := iteration.rendered
        hasAppliedRgb := true
        failedAttempts := 0
        nextRetryMs := 0 }
    else
      let failedAttempts :=
        if thread.failedAttempts < 255 then thread.failedAttempts + 1 else thread.failedAttempts
      { thread with
        failedAttempts
        nextRetryMs := iteration.nowMs + Int64.ofNat (retryDelayMs failedAttempts).toNat }
  else
    thread

end StatusLedThread

/-- The thread after some iterations, with those that issued an update. -/
structure LedRun where
  thread : StatusLedThread := {}
  updates : List StatusLedIteration := []
  deriving DecidableEq, Repr

namespace LedRun

def step (run : LedRun) (iteration : StatusLedIteration) : LedRun where
  thread := run.thread.iterate iteration
  updates := if run.thread.issues iteration then run.updates ++ [iteration] else run.updates

def ofIterations (iterations : List StatusLedIteration) : LedRun := iterations.foldl step {}

end LedRun

/-- The colour of the last update that succeeded. -/
def shownColour (updates : List StatusLedIteration) : Option StatusLedRgb :=
  (updates.filter (·.ret = 0)).getLast?.map (·.rendered)

/-- The failed updates after the last one that succeeded. -/
def consecutiveFailures (updates : List StatusLedIteration) : Nat :=
  (updates.rtakeWhile (·.ret ≠ 0)).length

/-- The wait after the last of these updates, if it failed. -/
def retryWaitMs (updates : List StatusLedIteration) : Nat :=
  min (1000 * 2 ^ (consecutiveFailures updates - 1)) 5000

/-- The last of these updates failed, and its wait is not over. -/
def FailurePending (updates : List StatusLedIteration) (nowMs : Int) : Prop :=
  ∃ failed, updates.getLast? = some failed ∧ failed.ret ≠ 0 ∧
    nowMs < failed.nowMs.toInt + retryWaitMs updates

/-- What `k_uptime_get` returns to the iterations: milliseconds since boot, far from
the end of `int64_t`. -/
structure UptimeReadings (iterations : List StatusLedIteration) : Prop where
  ordered : iterations.Pairwise fun earlier later => earlier.nowMs.toInt ≤ later.nowMs.toInt
  nonneg : ∀ iteration ∈ iterations, 0 ≤ iteration.nowMs.toInt
  inRange : ∀ iteration ∈ iterations, iteration.nowMs.toInt + 5000 < 2 ^ 63

/-- The readings of the first iterations. -/
theorem UptimeReadings.left {before after : List StatusLedIteration}
    (readings : UptimeReadings (before ++ after)) : UptimeReadings before where
  ordered := (List.pairwise_append.mp readings.ordered).1
  nonneg iteration member := readings.nonneg iteration (List.mem_append_left _ member)
  inRange iteration member := readings.inRange iteration (List.mem_append_left _ member)

theorem shownColour_concat (updates : List StatusLedIteration) (last : StatusLedIteration) :
    shownColour (updates ++ [last]) =
      if last.ret = 0 then some last.rendered else shownColour updates := by
  unfold shownColour
  split
  · next success => simp [List.filter_append, success]
  · next failure => simp [List.filter_append, failure]

theorem consecutiveFailures_concat (updates : List StatusLedIteration)
    (last : StatusLedIteration) :
    consecutiveFailures (updates ++ [last]) =
      if last.ret = 0 then 0 else consecutiveFailures updates + 1 := by
  unfold consecutiveFailures
  rw [List.rtakeWhile_concat]
  split
  · next failure =>
      rw [if_neg (of_decide_eq_true failure), List.length_append, List.length_singleton]
  · next success =>
      rw [if_pos (by simpa using success), List.length_nil]

/-- The earliest time of the next update: at once, or when the wait after a failure is
over. -/
def retryTimeMs (updates : List StatusLedIteration) : Int :=
  match updates.getLast? with
  | none => 0
  | some last => if last.ret = 0 then 0 else last.nowMs.toInt + retryWaitMs updates

theorem retryTimeMs_concat (updates : List StatusLedIteration) (last : StatusLedIteration) :
    retryTimeMs (updates ++ [last]) =
      if last.ret = 0 then 0 else last.nowMs.toInt + retryWaitMs (updates ++ [last]) := by
  simp [retryTimeMs]

/-- At a time that is not negative, only a failure keeps an update waiting. -/
theorem failurePending_of_lt {updates : List StatusLedIteration} {nowMs : Int}
    (nonneg : 0 ≤ nowMs) (early : nowMs < retryTimeMs updates) :
    FailurePending updates nowMs := by
  cases updates.eq_nil_or_concat' with
  | inl empty =>
      rw [empty] at early
      exact absurd early (Int.not_lt.mpr nonneg)
  | inr issued =>
      obtain ⟨earlier, last, rfl⟩ := issued
      rw [retryTimeMs_concat] at early
      split at early
      · exact absurd early (Int.not_lt.mpr nonneg)
      · next failure => exact ⟨last, List.getLast?_concat, failure, early⟩

namespace LedRun

/-- What the loop-carried variables say about the updates issued so far.  The failures
are counted up to 255, the waits are those of the true count. -/
structure Tracks (run : LedRun) : Prop where
  shown : shownColour run.updates =
    if run.thread.hasAppliedRgb then some run.thread.appliedRgb else none
  counted : run.thread.failedAttempts.toNat = min (consecutiveFailures run.updates) 255
  waits : run.thread.nextRetryMs.toInt = retryTimeMs run.updates

/-- An update is issued exactly when the colour has changed and no wait is left. -/
theorem Tracks.issues_iff {run : LedRun} (tracks : run.Tracks) (iteration : StatusLedIteration) :
    run.thread.issues iteration = true ↔
      shownColour run.updates ≠ some iteration.rendered ∧
        retryTimeMs run.updates ≤ iteration.nowMs.toInt := by
  rw [StatusLedThread.issues, Bool.and_eq_true, decide_eq_true_iff, Int64.le_iff_toInt_le,
    tracks.waits]
  apply and_congr_left
  intro _
  rw [tracks.shown]
  cases applied : run.thread.hasAppliedRgb with
  | false => simp
  | true =>
      simp only [Bool.not_true, Bool.false_or, Bool.not_eq_true', if_pos, ne_eq, Option.some.injEq]
      rw [← Bool.not_eq_true, rgbEqual_iff, eq_comm]

theorem step_of_issues {run : LedRun} {iteration : StatusLedIteration}
    (issued : run.thread.issues iteration = true) :
    (run.step iteration).updates = run.updates ++ [iteration] := by
  rw [step, issued]
  rfl

theorem step_of_not_issues {run : LedRun} {iteration : StatusLedIteration}
    (idle : run.thread.issues iteration = false) : run.step iteration = run := by
  simp [step, StatusLedThread.iterate, idle]

/-- `failed_attempts` stays at `UINT8_MAX`. -/
theorem saturatingSucc_toNat (failedAttempts : UInt8) :
    (if failedAttempts < 255 then failedAttempts + 1 else failedAttempts).toNat =
      min (failedAttempts.toNat + 1) 255 := by
  have bound := failedAttempts.toNat_lt
  have limit : failedAttempts < 255 ↔ failedAttempts.toNat < 255 := UInt8.lt_iff_toNat_lt
  split
  · next below =>
      have small := limit.mp below
      rw [UInt8.toNat_add]
      change (failedAttempts.toNat + 1) % 256 = _
      omega
  · next saturated =>
      have large := mt limit.mpr saturated
      omega

/-- What one iteration does: nothing, a successful update, or one that failed. -/
inductive Iterates (run : LedRun) (iteration : StatusLedIteration) : LedRun → Prop where
  | idles (idle : run.thread.issues iteration = false) : Iterates run iteration run
  | succeeds (issued : run.thread.issues iteration = true) (success : iteration.ret = 0) :
      Iterates run iteration ⟨⟨0, 0, true, iteration.rendered⟩, run.updates ++ [iteration]⟩
  | fails (issued : run.thread.issues iteration = true) (failure : iteration.ret ≠ 0)
      {failedAttempts : UInt8}
      (attempts : failedAttempts.toNat = min (run.thread.failedAttempts.toNat + 1) 255) :
      Iterates run iteration
        ⟨{ run.thread with
            failedAttempts
            nextRetryMs := iteration.nowMs + Int64.ofNat (retryDelayMs failedAttempts).toNat },
          run.updates ++ [iteration]⟩

theorem step_cases (run : LedRun) (iteration : StatusLedIteration) :
    run.Iterates iteration (run.step iteration) := by
  cases issued : run.thread.issues iteration with
  | false =>
      rw [step_of_not_issues issued]
      exact .idles issued
  | true =>
      simp only [step, StatusLedThread.iterate, issued, if_true]
      split
      · next success => exact .succeeds issued success
      · next failure => exact .fails issued failure (saturatingSucc_toNat _)

theorem Tracks.initial : ({} : LedRun).Tracks where
  shown := rfl
  counted := by decide
  waits := by decide

/-- The time of the next attempt does not overflow. -/
theorem nextRetry_toInt {nowMs : Int64} (nonneg : 0 ≤ nowMs.toInt)
    (inRange : nowMs.toInt + 5000 < 2 ^ 63) (failedAttempts : UInt8) :
    (nowMs + Int64.ofNat (retryDelayMs failedAttempts).toNat).toInt =
      nowMs.toInt + (backoff 1000 5000 failedAttempts.toNat : Nat) := by
  have most := backoff_le 1000 5000 failedAttempts.toNat
  rw [retryDelayMs_toNat, Int64.toInt_add, Int64.toInt_ofNat_of_lt (by omega)]
  apply Int.bmod_eq_of_le
  · omega
  · omega

theorem Tracks.step {run : LedRun} (tracks : run.Tracks) {iteration : StatusLedIteration}
    (nonneg : 0 ≤ iteration.nowMs.toInt) (inRange : iteration.nowMs.toInt + 5000 < 2 ^ 63) :
    (run.step iteration).Tracks := by
  have iterates := run.step_cases iteration
  generalize run.step iteration = next at iterates
  cases iterates with
  | idles => exact tracks
  | succeeds issued success =>
      constructor
      · simp [shownColour_concat, success]
      · simp [consecutiveFailures_concat, success]
      · simp [retryTimeMs_concat, success]
  | @fails issued failure failedAttempts attempts =>
      have counted : failedAttempts.toNat =
          min (consecutiveFailures (run.updates ++ [iteration])) 255 := by
        rw [attempts, tracks.counted, consecutiveFailures_concat, if_neg failure]
        omega
      have wait : backoff 1000 5000 failedAttempts.toNat =
          retryWaitMs (run.updates ++ [iteration]) := by
        rw [counted, backoff_min (by decide)]
        rfl
      constructor
      · rw [shownColour_concat, if_neg failure]
        exact tracks.shown
      · exact counted
      · rw [retryTimeMs_concat, if_neg failure, ← wait]
        exact nextRetry_toInt nonneg inRange failedAttempts

theorem ofIterations_concat (iterations : List StatusLedIteration)
    (iteration : StatusLedIteration) :
    ofIterations (iterations ++ [iteration]) = (ofIterations iterations).step iteration := by
  simp [ofIterations]

theorem tracks_ofIterations {iterations : List StatusLedIteration}
    (readings : UptimeReadings iterations) : (ofIterations iterations).Tracks := by
  obtain ⟨-, nonneg, inRange⟩ := readings
  induction iterations using List.reverseRecOn with
  | nil => exact Tracks.initial
  | append_singleton iterations iteration ih =>
      rw [ofIterations_concat]
      apply Tracks.step
      · apply ih
        · intro earlier member
          exact nonneg earlier (List.mem_append_left _ member)
        · intro earlier member
          exact inRange earlier (List.mem_append_left _ member)
      · exact nonneg iteration (by simp)
      · exact inRange iteration (by simp)

/-- Right after a failed update the next one waits. -/
theorem Tracks.wait_le {run : LedRun} (tracks : run.Tracks) {updates : List StatusLedIteration}
    {failed next : StatusLedIteration} (last : run.updates = updates ++ [failed])
    (failure : failed.ret ≠ 0) (issued : run.thread.issues next = true) :
    failed.nowMs.toInt + retryWaitMs (updates ++ [failed]) ≤ next.nowMs.toInt := by
  have due := ((tracks.issues_iff next).mp issued).2
  rw [last, retryTimeMs_concat, if_neg failure] at due
  exact due

/-- After a failed update, either no update has been issued, or one has, when the wait
was over. -/
theorem updates_after_failure {before between : List StatusLedIteration}
    {failed : StatusLedIteration} (readings : UptimeReadings (before ++ failed :: between))
    (issued : (ofIterations before).thread.issues failed = true) (failure : failed.ret ≠ 0) :
    (ofIterations (before ++ failed :: between)).updates =
        (ofIterations before).updates ++ [failed] ∨
      ∃ next ∈ between, failed.nowMs.toInt +
        retryWaitMs ((ofIterations before).updates ++ [failed]) ≤ next.nowMs.toInt := by
  induction between using List.reverseRecOn with
  | nil =>
      left
      rw [ofIterations_concat]
      exact step_of_issues issued
  | append_singleton between next ih =>
      have shape : before ++ failed :: (between ++ [next]) =
          before ++ failed :: between ++ [next] := by simp
      rw [shape] at readings ⊢
      rw [ofIterations_concat]
      cases ih readings.left with
      | inr later =>
          obtain ⟨update, member, due⟩ := later
          right
          exact ⟨update, List.mem_append_left _ member, due⟩
      | inl unchanged =>
          cases again : (ofIterations (before ++ failed :: between)).thread.issues next with
          | false =>
              left
              rw [step_of_not_issues again]
              exact unchanged
          | true =>
              right
              exact ⟨next, by simp,
                (tracks_ofIterations readings.left).wait_le unchanged failure again⟩

/-- At the end of an iteration the rendered colour is shown, unless a failure is pending. -/
theorem shown_or_pending {run : LedRun} (tracks : run.Tracks) {iteration : StatusLedIteration}
    (nonneg : 0 ≤ iteration.nowMs.toInt) :
    shownColour (run.step iteration).updates = some iteration.rendered ∨
      FailurePending (run.step iteration).updates iteration.nowMs.toInt := by
  cases issued : run.thread.issues iteration with
  | true =>
      rw [step_of_issues issued, shownColour_concat]
      split
      · left
        rfl
      · next failure =>
          right
          have positive : 0 < retryWaitMs (run.updates ++ [iteration]) := by
            have grown := Nat.two_pow_pos (consecutiveFailures (run.updates ++ [iteration]) - 1)
            unfold retryWaitMs
            omega
          exact ⟨iteration, List.getLast?_concat, failure, by omega⟩
  | false =>
      rw [step_of_not_issues issued]
      rw [← Bool.not_eq_true, tracks.issues_iff, not_and_or, not_not, Int.not_le] at issued
      cases issued with
      | inl same => exact .inl same
      | inr early => exact .inr (failurePending_of_lt nonneg early)

end LedRun

/-- The law of the retries, over the updates issued in a list of iterations. -/
structure RetryDiscipline (iterations : List StatusLedIteration) : Prop where
  /-- An update writes another colour than the one shown. -/
  needed : ∀ before iteration after, iterations = before ++ iteration :: after →
    (LedRun.ofIterations before).thread.issues iteration = true →
    shownColour (LedRun.ofIterations before).updates ≠ some iteration.rendered
  /-- After a failed update none is issued, in any later iteration, before its wait is
  over. -/
  backsOff : ∀ before failed between next after,
    iterations = before ++ failed :: between ++ next :: after →
    (LedRun.ofIterations before).thread.issues failed = true → failed.ret ≠ 0 →
    (LedRun.ofIterations (before ++ failed :: between)).thread.issues next = true →
    failed.nowMs.toInt + retryWaitMs (LedRun.ofIterations (before ++ [failed])).updates ≤
      next.nowMs.toInt
  /-- An iteration that leaves no failure pending leaves the rendered colour shown. -/
  shown : ∀ before iteration after, iterations = before ++ iteration :: after →
    ¬ FailurePending (LedRun.ofIterations (before ++ [iteration])).updates
      iteration.nowMs.toInt →
    shownColour (LedRun.ofIterations (before ++ [iteration])).updates = some iteration.rendered

/-- The elapsed time of an iteration is the true time since `status_led_start`, truncated. -/
theorem elapsedMs_eq_truncated (startedMs : Int64) (time : Nat) :
    (startedMs + Int64.ofNat time - startedMs).toUInt64.toUInt32 = truncated time := by
  have elapsed : startedMs + Int64.ofNat time - startedMs = Int64.ofNat time := by
    rw [Int64.add_comm, Int64.add_sub_cancel]
  have wide : (Int64.ofNat time).toUInt64 = UInt64.ofNat time := rfl
  rw [elapsed, wide, UInt64.toUInt32_ofNat', truncated]

/-- The strip shows what the reports to the policy call for, unless a failure is pending. -/
theorem LedRun.shows_timeline {run : LedRun} (tracks : run.Tracks) (timeline : LedTimeline)
    (startedMs : Int64) (ret : Int) :
    let iteration := StatusLedIteration.ofPolicy timeline.state startedMs
      (startedMs + Int64.ofNat timeline.now) ret
    0 ≤ iteration.nowMs.toInt →
      shownColour (run.step iteration).updates = some timeline.shown ∨
        FailurePending (run.step iteration).updates iteration.nowMs.toInt := by
  intro iteration nonneg
  have same : iteration.rendered = timeline.shown := by
    change render timeline.state
      (startedMs + Int64.ofNat timeline.now - startedMs).toUInt64.toUInt32 = timeline.shown
    rw [elapsedMs_eq_truncated, LedTimeline.shown]
  rw [← same]
  exact shown_or_pending tracks nonneg

namespace LedRun

/-- Whatever is rendered and whichever updates fail, the thread keeps to the law, and no
delay is longer than 5000 ms. -/
theorem retryDiscipline {iterations : List StatusLedIteration}
    (readings : UptimeReadings iterations) :
    RetryDiscipline iterations ∧
      ∀ failedAttempts, retryDelayMs failedAttempts ≤ retryMaxMs := by
  constructor
  · constructor
    · intro before iteration after parts issued
      rw [parts] at readings
      exact ((LedRun.tracks_ofIterations readings.left).issues_iff iteration |>.mp issued).1
    · intro before failed between next after parts issued failure again
      rw [parts] at readings
      rw [LedRun.ofIterations_concat, LedRun.step_of_issues issued]
      cases LedRun.updates_after_failure readings.left issued failure with
      | inl unchanged =>
          exact (LedRun.tracks_ofIterations readings.left).wait_le unchanged failure again
      | inr later =>
          obtain ⟨update, member, due⟩ := later
          have past : update.nowMs.toInt ≤ next.nowMs.toInt :=
            (List.pairwise_append.mp readings.ordered).2.2 update (by simp [member]) next (by simp)
          omega
    · intro before iteration after parts settled
      rw [parts] at readings
      rw [LedRun.ofIterations_concat] at settled ⊢
      exact (LedRun.shown_or_pending (LedRun.tracks_ofIterations readings.left)
        (readings.nonneg iteration (by simp))).resolve_right settled
  · exact retryDelayMs_le

/-- Two failures, a colour that changes while the thread waits, and a success. -/
def failingTwice : List StatusLedIteration :=
  [⟨100, ⟨16, 0, 0⟩, -5⟩, ⟨600, ⟨16, 0, 0⟩, 0⟩, ⟨1100, ⟨0, 16, 0⟩, -5⟩, ⟨3000, ⟨16, 0, 0⟩, 0⟩,
    ⟨3100, ⟨0, 0, 16⟩, 0⟩]

example : (LedRun.ofIterations failingTwice).updates.map (·.nowMs.toInt) = [100, 1100, 3100] := by
  decide

theorem retryDiscipline_failingTwice :
    RetryDiscipline failingTwice ∧ ∀ failedAttempts, retryDelayMs failedAttempts ≤ retryMaxMs :=
  retryDiscipline ⟨by decide, by decide, by decide⟩

end LedRun

end EspNmeaBridge
