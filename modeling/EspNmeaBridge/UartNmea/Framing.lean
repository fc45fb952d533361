import EspNmeaBridge.UartNmea
import EspNmeaBridge.Library.Counter
import Mathlib.Data.List.Count

/-!
# Exactness of UART framing

The receive thread's state and output after any number of poll rounds, described
by the newline-terminated segments of the bytes read.  Segments split into the
framed ones, which the thread looks at, and the swallowed ones, each of which
directly follows a framed segment of exactly one byte more than the line buffer
holds.  Without swallowed segments the framing is exact.
-/

namespace EspNmeaBridge

open Library

namespace Framing

section Swallowing

variable (config : Config)

/-- The segment fits the line buffer. -/
def fits (segment : List Byte) : Bool := decide (segment.length ≤ config.nmeaFrameMaxLen)

/-- The segment has exceeded the line buffer. -/
def exceeds (segment : List Byte) : Bool := decide (config.nmeaFrameMaxLen < segment.length)

/-- The newline of the segment is the byte that finds the line buffer full. -/
def hidesNewline (segment : List Byte) : Bool :=
  decide (segment.length = config.nmeaFrameMaxLen + 1)

/-- Segments read while a discarded line still waits for a newline.  The flag
tells whether the segment at hand is such a one. -/
def swallowedFrom : Bool → List (List Byte) → List (List Byte)
  | _, [] => []
  | true, segment :: rest => segment :: swallowedFrom false rest
  | false, segment :: rest => swallowedFrom (hidesNewline config segment) rest

/-- The segments that are not swallowed. -/
def framedFrom : Bool → List (List Byte) → List (List Byte)
  | _, [] => []
  | true, _ :: rest => framedFrom false rest
  | false, segment :: rest => segment :: framedFrom (hidesNewline config segment) rest

/-- Whether the next segment is swallowed. -/
def swallowsNext : Bool → List (List Byte) → Bool
  | pending, [] => pending
  | true, _ :: rest => swallowsNext false rest
  | false, segment :: rest => swallowsNext (hidesNewline config segment) rest

/-- Segments of a whole stream that are swallowed. -/
abbrev swallowed (segments : List (List Byte)) : List (List Byte) :=
  swallowedFrom config false segments

/-- Segments of a whole stream that are framed. -/
abbrev framed (segments : List (List Byte)) : List (List Byte) :=
  framedFrom config false segments

variable {config}

theorem framedFrom_concat (pending : Bool) (segments : List (List Byte)) (last : List Byte) :
    framedFrom config pending (segments ++ [last]) =
      framedFrom config pending segments ++
        if swallowsNext config pending segments then [] else [last] := by
  induction segments generalizing pending with
  | nil => cases pending <;> rfl
  | cons segment rest ih =>
      cases pending with
      | true => exact ih false
      | false => exact congrArg (segment :: ·) (ih (hidesNewline config segment))

theorem swallowsNext_concat (pending : Bool) (segments : List (List Byte)) (last : List Byte) :
    swallowsNext config pending (segments ++ [last]) =
      (!swallowsNext config pending segments && hidesNewline config last) := by
  induction segments generalizing pending with
  | nil => cases pending <;> simp [swallowsNext]
  | cons segment rest ih => cases pending <;> simp [swallowsNext, ih]

theorem framedFrom_sublist (pending : Bool) (segments : List (List Byte)) :
    (framedFrom config pending segments).Sublist segments := by
  induction segments generalizing pending with
  | nil => cases pending <;> exact .slnil
  | cons segment rest ih =>
      cases pending with
      | true => exact (ih false).cons segment
      | false => exact (ih _).cons_cons segment

theorem swallowedFrom_concat_eq_nil {segments : List (List Byte)}
    (shown : ∀ segment ∈ segments, hidesNewline config segment = false) (last : List Byte) :
    swallowedFrom config false (segments ++ [last]) = [] := by
  induction segments with
  | nil => rfl
  | cons segment rest ih =>
      simp only [List.cons_append, swallowedFrom, shown segment (by simp)]
      exact ih fun other member => shown other (by simp [member])

theorem swallowedFrom_eq_nil {segments : List (List Byte)}
    (shown : ∀ segment ∈ segments, hidesNewline config segment = false) :
    swallowedFrom config false segments = [] := by
  induction segments with
  | nil => rfl
  | cons segment rest ih =>
      simp only [swallowedFrom, shown segment (by simp)]
      exact ih fun other member => shown other (by simp [member])

/-- Every segment is framed or swallowed. -/
theorem countP_framed_add_swallowed (test : List Byte → Bool) (pending : Bool)
    (segments : List (List Byte)) :
    (framedFrom config pending segments).countP test +
        (swallowedFrom config pending segments).countP test = segments.countP test := by
  induction segments generalizing pending with
  | nil => cases pending <;> rfl
  | cons segment rest ih =>
      cases pending with
      | true =>
          simp only [framedFrom, swallowedFrom, List.countP_cons]
          have := ih false
          omega
      | false =>
          simp only [framedFrom, swallowedFrom, List.countP_cons]
          have := ih (hidesNewline config segment)
          omega

/-- Filtering the framed segments loses a segment exactly when a swallowed one
passes the filter. -/
theorem filter_framed_eq_iff (test : List Byte → Bool) (pending : Bool)
    (segments : List (List Byte)) :
    (framedFrom config pending segments).filter test = segments.filter test ↔
      ∀ segment ∈ swallowedFrom config pending segments, test segment = false := by
  have split : (framedFrom config pending segments).countP test +
      (swallowedFrom config pending segments).countP test = segments.countP test :=
    countP_framed_add_swallowed test pending segments
  have none : (∀ segment ∈ swallowedFrom config pending segments, test segment = false) ↔
      (swallowedFrom config pending segments).countP test = 0 := by
    simp [List.countP_eq_zero]
  rw [none]
  constructor
  · intro equal
    have lengths := congrArg List.length equal
    simp only [← List.countP_eq_length_filter] at lengths
    omega
  · intro zero
    apply ((framedFrom_sublist pending segments).filter test).eq_of_length
    simp only [← List.countP_eq_length_filter]
    omega

end Swallowing

end Framing

open Framing

variable {config : Config}

theorem uartRxThread_eq_foldl (rounds : List (List Byte)) :
    uartRxThread config rounds = rounds.flatten.foldl (UartRun.read config) {} := by
  rw [List.foldl_flatten]
  rfl

namespace Framing

/-- Framed segments that have exceeded the line buffer, an unterminated tail
included. -/
def overlongFramed (config : Config) (stream : List Byte) : Nat :=
  (framed config (segments newline stream)).countP (exceeds config) +
    if swallowsNext config false (segments newline stream) then 0
    else if exceeds config (openRest newline stream) then 1 else 0

/-- A discarded line still waits for its newline. -/
def dropping (config : Config) (stream : List Byte) : Bool :=
  swallowsNext config false (segments newline stream) ||
    exceeds config (openRest newline stream)

/-- The thread's state and output as a function of the bytes read. -/
def describe (config : Config) (stream : List Byte) : UartRun :=
  let published := (framed config (segments newline stream)).filter (fits config)
  { uart :=
      { line := if dropping config stream then [] else openRest newline stream
        droppingOverlong := dropping config stream
        stats :=
          { bytesRx := UInt32.ofNat stream.length
            linesRx := UInt32.ofNat published.length
            overlongLines := UInt32.ofNat (overlongFramed config stream) } }
    published }

/-- A byte read while a line is being dropped. -/
theorem read_describe_of_dropping {stream : List Byte}
    (dropped : dropping config stream = true) (ch : Byte) :
    (describe config stream).read config ch = describe config (stream ++ [ch]) := by
  by_cases closes : ch = newline
  · subst closes
    cases pending : swallowsNext config false (segments newline stream) with
    | true =>
        simp [describe, UartRun.read, uartRxByte, dropping, pending, framedFrom_concat,
          swallowsNext_concat, exceeds, overlongFramed]
    | false =>
        have long : config.nmeaFrameMaxLen < (openRest newline stream).length := by
          simpa [dropping, pending, exceeds] using dropped
        have unframed : ¬(openRest newline stream).length + 1 ≤ config.nmeaFrameMaxLen := by
          omega
        have shown : (openRest newline stream).length ≠ config.nmeaFrameMaxLen := by omega
        simp [describe, UartRun.read, uartRxByte, dropping, pending, framedFrom_concat,
          swallowsNext_concat, exceeds, hidesNewline, fits, overlongFramed, long, unframed,
          shown, Nat.lt_succ_of_lt long]
  · have still : dropping config (stream ++ [ch]) = true := by
      simp only [dropping, Bool.or_eq_true, exceeds, decide_eq_true_eq] at dropped ⊢
      rw [segments_concat_of_ne _ closes, openRest_concat_of_ne _ closes, List.length_append]
      exact dropped.imp_right (Nat.lt_add_right _)
    have same : overlongFramed config (stream ++ [ch]) = overlongFramed config stream := by
      simp only [overlongFramed, segments_concat_of_ne _ closes]
      cases pending : swallowsNext config false (segments newline stream) with
      | true => rfl
      | false =>
          have long : config.nmeaFrameMaxLen < (openRest newline stream).length := by
            simpa [dropping, pending, exceeds] using dropped
          simp [exceeds, openRest_concat_of_ne _ closes, long, Nat.lt_succ_of_lt long]
    simp [describe, UartRun.read, uartRxByte, dropped, still, closes, same,
      segments_concat_of_ne _ closes]

/-- A byte read while a line is being collected. -/
theorem read_describe_of_collecting {stream : List Byte}
    (collecting : dropping config stream = false) (ch : Byte) :
    (describe config stream).read config ch = describe config (stream ++ [ch]) := by
  obtain ⟨pending, short⟩ : swallowsNext config false (segments newline stream) = false ∧
      (openRest newline stream).length ≤ config.nmeaFrameMaxLen := by
    simpa [dropping, exceeds] using collecting
  by_cases room : (openRest newline stream).length < config.nmeaFrameMaxLen
  · have unfilled : (openRest newline stream).length ≠ config.nmeaFrameMaxLen := by omega
    have within : ¬config.nmeaFrameMaxLen < (openRest newline stream).length := by omega
    have remains : ¬config.nmeaFrameMaxLen < (openRest newline stream).length + 1 := by omega
    by_cases closes : ch = newline
    · subst closes
      simp [describe, UartRun.read, uartRxByte, dropping, pending, room, framedFrom_concat,
        swallowsNext_concat, exceeds, hidesNewline, fits, overlongFramed, unfilled, within,
        Nat.succ_le_of_lt room]
    · simp [describe, UartRun.read, uartRxByte, dropping, pending, room, closes, exceeds,
        overlongFramed, within, remains, segments_concat_of_ne _ closes,
        openRest_concat_of_ne _ closes]
  · -- the byte finds the buffer full and is dropped before it is looked at
    have filled : (openRest newline stream).length = config.nmeaFrameMaxLen := by omega
    by_cases closes : ch = newline
    · subst closes
      simp [describe, UartRun.read, uartRxByte, dropping, pending, framedFrom_concat,
        swallowsNext_concat, exceeds, hidesNewline, fits, overlongFramed, filled]
    · simp [describe, UartRun.read, uartRxByte, dropping, pending, exceeds, overlongFramed,
        filled, segments_concat_of_ne _ closes, openRest_concat_of_ne _ closes]

end Framing

/-- The thread's whole behaviour: what it has published, counted and kept is a
function of the bytes read, however they were spread over poll rounds. -/
theorem uartRxThread_eq (rounds : List (List Byte)) :
    uartRxThread config rounds = describe config rounds.flatten := by
  rw [uartRxThread_eq_foldl]
  induction rounds.flatten using List.reverseRecOn with
  | nil => simp [describe, dropping, overlongFramed, framedFrom, swallowsNext, exceeds]
  | append_singleton stream ch ih =>
      rw [List.foldl_append, ih, List.foldl_cons, List.foldl_nil]
      cases state : dropping config stream with
      | true => exact read_describe_of_dropping state ch
      | false => exact read_describe_of_collecting state ch

/-! ## Exactness -/

/-- The thread publishes exactly the newline-terminated segments that fit the line
buffer, and its counters agree with the cut of the stream modulo `2 ^ 32`. -/
structure FramingExact (config : Config) (rounds : List (List Byte)) : Prop where
  frames : (uartRxThread config rounds).published =
    (segments newline rounds.flatten).filter (fits config)
  linesRx : (uartRxThread config rounds).uart.stats.linesRx =
    UInt32.ofNat ((segments newline rounds.flatten).countP (fits config))
  overlongLines : (uartRxThread config rounds).uart.stats.overlongLines =
    UInt32.ofNat
      ((segments newline rounds.flatten ++ [openRest newline rounds.flatten]).countP
        (exceeds config))
  bytesRx : (uartRxThread config rounds).uart.stats.bytesRx = UInt32.ofNat rounds.flatten.length

namespace Framing

theorem overlongFramed_eq_countP (stream : List Byte) :
    overlongFramed config stream =
      (framed config (segments newline stream ++ [openRest newline stream])).countP
        (exceeds config) := by
  simp only [overlongFramed, framed]
  rw [framedFrom_concat]
  cases swallowsNext config false (segments newline stream) with
  | true => simp
  | false => simp [List.countP_singleton]

/-- Overlong segments, counted by the thread or swallowed. -/
theorem overlongFramed_add_swallowed (stream : List Byte) :
    overlongFramed config stream +
        (swallowed config (segments newline stream ++ [openRest newline stream])).countP
          (exceeds config) =
      (segments newline stream ++ [openRest newline stream]).countP (exceeds config) := by
  rw [overlongFramed_eq_countP, countP_framed_add_swallowed]

theorem published_eq_iff (rounds : List (List Byte)) :
    (uartRxThread config rounds).published =
        (segments newline rounds.flatten).filter (fits config) ↔
      ∀ segment ∈ swallowed config (segments newline rounds.flatten),
        config.nmeaFrameMaxLen < segment.length := by
  rw [uartRxThread_eq]
  simp only [describe, filter_framed_eq_iff, fits, decide_eq_false_iff_not, Nat.not_le]

theorem overlongLines_eq_iff (rounds : List (List Byte)) :
    (uartRxThread config rounds).uart.stats.overlongLines =
        UInt32.ofNat
          ((segments newline rounds.flatten ++ [openRest newline rounds.flatten]).countP
            (exceeds config)) ↔
      2 ^ 32 ∣ (swallowed config
        (segments newline rounds.flatten ++ [openRest newline rounds.flatten])).countP
          (exceeds config) := by
  rw [uartRxThread_eq, ← overlongFramed_add_swallowed, ← counter_eq_add_iff]
  rfl

end Framing

/-- Framing is exact if and only if every complete segment that gets swallowed is
overlong itself, and the overlong ones among the swallowed, an unterminated tail
included, escape a counter of 32 bits. -/
theorem framingExact_iff (config : Config) (rounds : List (List Byte)) :
    FramingExact config rounds ↔
      (∀ segment ∈ swallowed config (segments newline rounds.flatten),
        config.nmeaFrameMaxLen < segment.length) ∧
      2 ^ 32 ∣ (swallowed config
        (segments newline rounds.flatten ++ [openRest newline rounds.flatten])).countP
          (exceeds config) := by
  constructor
  · intro exact
    exact ⟨(published_eq_iff rounds).mp exact.frames,
      (overlongLines_eq_iff rounds).mp exact.overlongLines⟩
  · rintro ⟨noneShort, counted⟩
    have frames := (published_eq_iff rounds).mpr noneShort
    refine ⟨frames, ?_, (overlongLines_eq_iff rounds).mpr counted, ?_⟩
    · rw [List.countP_eq_length_filter, ← frames, uartRxThread_eq]
      rfl
    · rw [uartRxThread_eq]
      rfl

/-- A line whose newline is the byte after a full buffer takes the next line with
it. -/
theorem framing_not_exact :
    ¬∀ (config : Config) (rounds : List (List Byte)), FramingExact config rounds := by
  intro exact
  have frames := (exact .committed [List.replicate 128 65 ++ [newline], [36, newline]]).frames
  exact absurd frames (by decide +kernel)

/-- Without a segment of exactly one byte more than the buffer holds, framing is
exact. -/
theorem framingExact_of_no_hidden_newline {config : Config} {rounds : List (List Byte)}
    (shown : ∀ segment ∈ segments newline rounds.flatten,
      segment.length ≠ config.nmeaFrameMaxLen + 1) :
    FramingExact config rounds := by
  have noneHidden : ∀ segment ∈ segments newline rounds.flatten,
      hidesNewline config segment = false := by
    intro segment member
    simpa [hidesNewline] using shown segment member
  rw [framingExact_iff]
  constructor
  · simp [swallowedFrom_eq_nil noneHidden]
  · simp [swallowedFrom_concat_eq_nil noneHidden]

end EspNmeaBridge
