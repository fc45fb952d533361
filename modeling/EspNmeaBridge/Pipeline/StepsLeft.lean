import EspNmeaBridge.Pipeline.Losses
import EspNmeaBridge.Pipeline.Uninterrupted

/-!
# Steps left

What the UART thread has left to do until it reads the next byte, and the dispatcher until
the end of its pass over the sinks: the number of their own steps is bounded, and no step of
theirs is refused, whatever the sessions do in between.
-/

namespace EspNmeaBridge

open Library

variable {config : Config} {ι : Type}

/-- Steps of the UART thread until it reads the next byte, at most. -/
def UartPc.untilPoll : UartPc config → Nat
  | .poll => 0
  | pc => pc.remaining + 1

theorem UartPc.untilPoll_of_busy {pc : UartPc config} (busy : pc ≠ .poll) :
    pc.untilPoll = pc.remaining + 1 := by
  cases pc with
  | poll => contradiction
  | publish | put | ledReceived => rfl

theorem UartPc.untilPoll_le (pc : UartPc config) : pc.untilPoll ≤ 7 := by
  cases pc with
  | poll | publish | ledReceived => exact Nat.le_of_ble_eq_true rfl
  | put frame pc => cases pc <;> exact Nat.le_of_ble_eq_true rfl

/-- The pass of the dispatcher is bounded by the slots left. -/
theorem DispatcherPc.remaining_le {pc : DispatcherPc config} (once : pc.VisitsOnce) :
    pc.remaining ≤ 8 * config.nmeaSinksMax + 2 := by
  have fits : ∀ slots : List (Fin config.nmeaSinksMax), slots.Nodup →
      slots.length ≤ config.nmeaSinksMax := by
    intro slots nodup
    simpa using nodup.length_le_card
  cases pc with
  | waiting => exact Nat.zero_le _
  | locking => exact Nat.le_refl _
  | scanning frame slots any =>
      have few := fits slots once
      simp only [remaining]
      omega
  | putting frame i slots before pc =>
      have few := fits (i :: slots) once
      rw [List.length_cons] at few
      cases pc <;>
        · simp only [remaining, PutPc.remaining]
          omega
  | accounting frame i slots before =>
      have few := fits (i :: slots) once
      rw [List.length_cons] at few
      simp only [remaining]
      omega

namespace Pipeline

variable {pipeline : Pipeline config ι}

/-- Every step of the UART thread brings it closer to the next byte; the last one tells the
status LED. -/
theorem stepUart_untilPoll (busy : pipeline.uartPc ≠ .poll) (ch : Byte) (sys : SysReturn) :
    (pipeline.uartPc = .ledReceived ∧ (pipeline.stepUart ch sys).uartPc = .poll) ∨
      (pipeline.stepUart ch sys).uartPc.untilPoll < pipeline.uartPc.untilPoll ∧
        pipeline.uartPc ≠ .ledReceived ∧ (pipeline.stepUart ch sys).uartPc ≠ .poll := by
  by_cases publishing : pipeline.uartPc.Publishing
  · right
    obtain ⟨bridge, uartPc, moved, _, inside, fewer⟩ :=
      pipeline.publishOutcome_step publishing ch sys
    have later : uartPc ≠ .poll := by
      intro poll
      simp [poll, UartPc.Publishing] at inside
    have before : pipeline.uartPc ≠ .ledReceived := by
      intro reports
      simp [reports, UartPc.Publishing] at publishing
    rw [moved, UartPc.untilPoll_of_busy busy]
    refine ⟨?_, before, later⟩
    change uartPc.untilPoll < _
    rw [UartPc.untilPoll_of_busy later]
    omega
  · left
    cases pc : pipeline.uartPc with
    | poll => contradiction
    | ledReceived => exact ⟨rfl, by simp [stepUart, pc]⟩
    | publish | put => exact absurd (by rw [pc]; trivial) publishing

/-- Nothing but the dispatcher keeps a session from `sinks_lock`. -/
theorem step_session_ne_none [DecidableEq ι] {id : ι}
    (needs : (pipeline.sessions id).needsSinksLock = true)
    (unlocked : pipeline.dispatcher.locked = false) (sys : SysReturn) :
    pipeline.step (.session id sys) ≠ none := by
  have moves : (pipeline.sessions id).step pipeline.shared sys ≠ none := by
    cases pc : (pipeline.sessions id).pc with
    | sinkOpen | takeCheck =>
        simp only [TcpNmeaSession.step, pc]
        split <;> simp
    | sinkClose => simp [TcpNmeaSession.step, pc]
    | _ => simp [TcpNmeaSession.needsSinksLock, pc] at needs
  obtain ⟨⟨shared, session⟩, moved⟩ := Option.ne_none_iff_exists'.mp moves
  simp [step, stepSession, unlocked, moved]

end Pipeline

end EspNmeaBridge
