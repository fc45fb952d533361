import EspNmeaBridge.Library.Deadline

/-!
# Status LED policy

The device-independent policy of `status_led_policy.c`: the state application
events update, and the colour rendered from it.  Flash windows are kept as
deadlines of a 32-bit millisecond clock that wraps.
-/

namespace EspNmeaBridge

open Library

/-- `struct status_led_rgb` -/
structure StatusLedRgb where
  r : UInt8
  g : UInt8
  b : UInt8
  deriving DecidableEq, Repr

/-- `enum status_led_base_state` -/
inductive StatusLedBaseState where
  | disconnected
  | connecting
  | connected
  deriving DecidableEq, Repr

/-- `struct status_led_policy_state`, zero-initialized as the static variable of
`status_led.c` is. -/
structure StatusLedPolicyState where
  activeTcpNmeaSessions : UInt16 := 0
  outboundTcpNmeaClientConnecting : Bool := false
  nmeaActivityFlashActive : Bool := false
  nmeaForwardedFlashActive : Bool := false
  nmeaErrorFlashActive : Bool := false
  nmeaActivityFlashUntilMs : UInt32 := 0
  nmeaForwardedFlashUntilMs : UInt32 := 0
  nmeaErrorFlashUntilMs : UInt32 := 0
  deriving DecidableEq, Repr

namespace StatusLed

def disconnectedRed : UInt8 := 16
def connectingPeriodMs : UInt32 := 1000
def connectingRedMin : UInt32 := 4
def connectingGreenMin : UInt32 := 2
def connectingRedMax : UInt32 := 16
def connectingGreenMax : UInt32 := 8
def connectedGreen : UInt8 := 16
def nmeaActivityFlashMs : Nat := 100
def nmeaActivityBlue : UInt8 := 16
def nmeaForwardedWhite : UInt8 := 24
def nmeaErrorRed : UInt8 := 24

/-- The deadline arithmetic of the three flash functions, in `uint32_t`. -/
def flashDeadline (nowMs : UInt32) : UInt32 := nowMs + UInt32.ofNat nmeaActivityFlashMs

def flashActiveUntil (active : Bool) (nowMs untilMs : UInt32) : Bool :=
  active && isBefore nowMs untilMs

def tcpNmeaSessionStarted (state : StatusLedPolicyState) : StatusLedPolicyState :=
  { state with activeTcpNmeaSessions := state.activeTcpNmeaSessions + 1 }

def tcpNmeaSessionEnded (state : StatusLedPolicyState) : StatusLedPolicyState :=
  if 0 < state.activeTcpNmeaSessions then
    { state with activeTcpNmeaSessions := state.activeTcpNmeaSessions - 1 }
  else
    state

def tcpNmeaClientConnecting (state : StatusLedPolicyState) (connecting : Bool) :
    StatusLedPolicyState :=
  { state with outboundTcpNmeaClientConnecting := connecting }

def nmeaFrameReceived (state : StatusLedPolicyState) (nowMs : UInt32) : StatusLedPolicyState :=
  { state with
    nmeaActivityFlashActive := true
    nmeaActivityFlashUntilMs := flashDeadline nowMs }

def nmeaFrameForwarded (state : StatusLedPolicyState) (nowMs : UInt32) : StatusLedPolicyState :=
  { state with
    nmeaForwardedFlashActive := true
    nmeaForwardedFlashUntilMs := flashDeadline nowMs }

def nmeaSendFailed (state : StatusLedPolicyState) (nowMs : UInt32) : StatusLedPolicyState :=
  { state with
    nmeaErrorFlashActive := true
    nmeaErrorFlashUntilMs := flashDeadline nowMs }

def baseState (state : StatusLedPolicyState) : StatusLedBaseState :=
  if 0 < state.activeTcpNmeaSessions then .connected
  else if state.outboundTcpNmeaClientConnecting then .connecting
  else .disconnected

/-- `status_led_policy_render_disconnected`; the elapsed time is unused. -/
def renderDisconnected (_elapsedMs : UInt32) : StatusLedRgb := ⟨disconnectedRed, 0, 0⟩

/-- One channel of the connecting pulse: the minimum plus the 8-bit share of the
range reached at `rampMs`. -/
def rampChannel (channelMin channelMax rampMs : UInt32) : UInt8 :=
  let range := channelMax - channelMin
  let halfPeriodMs := connectingPeriodMs / 2
  (channelMin + ((range * rampMs) / halfPeriodMs).toUInt8.toUInt32).toUInt8

def renderConnecting (elapsedMs : UInt32) : StatusLedRgb :=
  let halfPeriodMs := connectingPeriodMs / 2
  let phaseMs := elapsedMs % connectingPeriodMs
  let rampMs := if halfPeriodMs < phaseMs then connectingPeriodMs - phaseMs else phaseMs
  ⟨rampChannel connectingRedMin connectingRedMax rampMs,
    rampChannel connectingGreenMin connectingGreenMax rampMs, 0⟩

def renderBase (state : StatusLedBaseState) (elapsedMs : UInt32) : StatusLedRgb :=
  match state with
  | .connected => ⟨0, connectedGreen, 0⟩
  | .connecting => renderConnecting elapsedMs
  | .disconnected => renderDisconnected elapsedMs

def errorColour : StatusLedRgb := ⟨nmeaErrorRed, 0, 0⟩
def forwardedColour : StatusLedRgb := ⟨nmeaForwardedWhite, nmeaForwardedWhite, nmeaForwardedWhite⟩
def activityColour : StatusLedRgb := ⟨0, 0, nmeaActivityBlue⟩

/-- `status_led_policy_render` -/
def render (state : StatusLedPolicyState) (elapsedMs : UInt32) : StatusLedRgb :=
  if flashActiveUntil state.nmeaErrorFlashActive elapsedMs state.nmeaErrorFlashUntilMs then
    errorColour
  else if flashActiveUntil state.nmeaForwardedFlashActive elapsedMs
      state.nmeaForwardedFlashUntilMs then
    forwardedColour
  else if flashActiveUntil state.nmeaActivityFlashActive elapsedMs
      state.nmeaActivityFlashUntilMs then
    activityColour
  else
    renderBase (baseState state) elapsedMs

/-- No base pattern uses blue. -/
@[simp] theorem renderBase_blue (state : StatusLedBaseState) (elapsedMs : UInt32) :
    (renderBase state elapsedMs).b = 0 := by
  cases state <;> rfl

/-- The pulse never exceeds its maximum. -/
theorem rampChannel_le {channelMin channelMax rampMs : UInt32}
    (ordered : channelMin.toNat ≤ channelMax.toNat) (small : channelMax.toNat < 256)
    (ramp : rampMs.toNat ≤ 500) :
    (rampChannel channelMin channelMax rampMs).toNat ≤ channelMax.toNat := by
  have range : (channelMax - channelMin).toNat = channelMax.toNat - channelMin.toNat :=
    UInt32.toNat_sub_of_le _ _ (UInt32.le_iff_toNat_le.mpr ordered)
  have product : (channelMax.toNat - channelMin.toNat) * rampMs.toNat ≤
      (channelMax.toNat - channelMin.toNat) * 500 := Nat.mul_le_mul_left _ ramp
  have share : (channelMax.toNat - channelMin.toNat) * rampMs.toNat / 500 ≤
      channelMax.toNat - channelMin.toNat := by omega
  have half : (connectingPeriodMs / 2).toNat = 500 := by decide
  simp only [rampChannel, UInt32.toNat_toUInt8, UInt32.toNat_add, UInt8.toNat_toUInt32,
    UInt32.toNat_div, UInt32.toNat_mul, range, half]
  rw [Nat.mod_eq_of_lt (show (channelMax.toNat - channelMin.toNat) * rampMs.toNat < 2 ^ 32 by
    omega)]
  omega

/-- The ramp of the pulse stays within half a period. -/
theorem rampMs_le (elapsedMs : UInt32) :
    (if connectingPeriodMs / 2 < elapsedMs % connectingPeriodMs then
        connectingPeriodMs - elapsedMs % connectingPeriodMs
      else elapsedMs % connectingPeriodMs).toNat ≤ 500 := by
  have half : (connectingPeriodMs / 2).toNat = 500 := by decide
  have period : connectingPeriodMs.toNat = 1000 := by decide
  have phase : (elapsedMs % connectingPeriodMs).toNat < 1000 := by
    rw [UInt32.toNat_mod, period]
    exact Nat.mod_lt _ (by decide)
  split
  · rename_i late
    rw [UInt32.lt_iff_toNat_lt, half] at late
    rw [UInt32.toNat_sub_of_le _ _ (UInt32.le_iff_toNat_le.mpr (by omega))]
    omega
  · rename_i early
    rw [UInt32.lt_iff_toNat_lt, half] at early
    omega

/-- No base pattern is as red as the error flash. -/
theorem renderBase_red_le (state : StatusLedBaseState) (elapsedMs : UInt32) :
    (renderBase state elapsedMs).r.toNat ≤ 16 := by
  cases state with
  | connected => exact Nat.zero_le 16
  | disconnected => exact Nat.le_refl 16
  | connecting => exact rampChannel_le (by decide) (by decide) (rampMs_le elapsedMs)

end StatusLed

end EspNmeaBridge
