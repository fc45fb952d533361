import EspNmeaBridge.Library.FilledBuffer
import EspNmeaBridge.Library.Machine
import EspNmeaBridge.UartNmea

/-!
# The line buffer

`uart_rx_thread` with its `line[]` and `line_len` as they are.  The state of
`uartRxByte` is what they hold (`uartRxByteStored_refines`), no byte is stored outside
`line[]`, and the lines handed to the bridge are nonempty, fit the buffer and end with
their only newline.
-/

namespace EspNmeaBridge

open Library

variable {config : Config}

/-- The locals of `uart_rx_thread`, and the module's counters. -/
structure UartRxLocals (config : Config) where
  line : FilledBuffer Byte config.nmeaFrameMaxLen
  droppingOverlong : Bool := false
  stats : UartNmeaStats := {}

/-- `uartRxByte` on the buffer; there is no result if an access to it is out of
bounds.  The call of `nmea_bridge_publish_frame` reads the first `line_len` bytes. -/
def uartRxByteStored (uart : UartRxLocals config) (ch : Byte) :
    Option (UartRxLocals config × Option (List Byte)) :=
  let uart := { uart with stats.bytesRx := uart.stats.bytesRx + 1 }
  if uart.droppingOverlong then
    if ch = newline then
      some ({ uart with droppingOverlong := false, line := uart.line.clear }, none)
    else
      some (uart, none)
  else if uart.line.filled < config.nmeaFrameMaxLen then
    match uart.line.store ch with
    | none => none
    | some line =>
        if ch = newline then
          match line.contents with
          | none => none
          | some data =>
              some ({ uart with stats.linesRx := uart.stats.linesRx + 1, line := line.clear },
                some data)
        else
          some ({ uart with line }, none)
  else
    some ({ uart with
        stats.overlongLines := uart.stats.overlongLines + 1
        droppingOverlong := true
        line := uart.line.clear }, none)

/-- The buffer holds the line, and the rest agrees. -/
structure UartRxLocals.Holds (locals : UartRxLocals config) (uart : UartRx) : Prop where
  line : locals.line.contents = some uart.line
  droppingOverlong : locals.droppingOverlong = uart.droppingOverlong
  stats : locals.stats = uart.stats

/-- A call the thread may make of `nmea_bridge_publish_frame`. -/
structure PublishedLine (config : Config) (line : List Byte) : Prop where
  nonempty : 1 ≤ line.length
  fits : line.length ≤ config.nmeaFrameMaxLen
  segment : IsSegment newline line

/-- No newline is in the buffer. -/
def UartRx.Unfinished (uart : UartRx) : Prop := newline ∉ uart.line

/-- A byte keeps newlines out of the buffer, and publishes nothing else than lines. -/
theorem uartRxByte_unfinished (config : Config) {uart : UartRx} (unfinished : uart.Unfinished)
    (ch : Byte) :
    (uartRxByte config uart ch).1.Unfinished ∧
      ∀ line, (uartRxByte config uart ch).2 = some line → PublishedLine config line := by
  unfold UartRx.Unfinished at *
  unfold uartRxByte
  cases uart.droppingOverlong with
  | true => by_cases closes : ch = newline <;> simp [closes, unfinished]
  | false =>
      by_cases room : uart.line.length < config.nmeaFrameMaxLen
      · by_cases closes : ch = newline
        · have line : PublishedLine config (uart.line ++ [newline]) := by
            constructor
            · simp
            · simpa using Nat.succ_le_of_lt room
            · exact ⟨uart.line, unfinished, rfl⟩
          simpa [room, closes] using line
        · simpa [room, closes, Ne.symm closes] using unfinished
      · simp [room]

/-- The buffer follows the line, byte by byte, and every access is in bounds. -/
theorem uartRxByteStored_refines {locals : UartRxLocals config} {uart : UartRx}
    (holds : locals.Holds uart) (ch : Byte) :
    ∃ next, uartRxByteStored locals ch = some (next, (uartRxByte config uart ch).2) ∧
      next.Holds (uartRxByte config uart ch).1 := by
  obtain ⟨buffer, _, _⟩ := locals
  obtain ⟨held, rfl, rfl⟩ := holds
  have filled : uart.line.length = buffer.filled := FilledBuffer.length_of_contents held
  simp only [uartRxByteStored, uartRxByte, ← filled]
  cases dropping : uart.droppingOverlong with
  | true =>
      by_cases closes : ch = newline
      · simp only [closes, if_true]
        refine ⟨_, rfl, ?_⟩
        constructor
        · exact FilledBuffer.contents_clear
        · rfl
        · rfl
      · simp only [closes, if_true, if_false]
        refine ⟨_, rfl, ?_⟩
        constructor
        · exact held
        · rfl
        · rfl
  | false =>
      by_cases room : uart.line.length < config.nmeaFrameMaxLen
      · obtain ⟨line, stored, contents⟩ :=
          FilledBuffer.exists_store held (filled ▸ room) ch
        by_cases closes : ch = newline
        · subst closes
          simp only [room, stored, contents, if_true, Bool.false_eq_true, if_false]
          refine ⟨_, rfl, ?_⟩
          constructor
          · exact FilledBuffer.contents_clear
          · rfl
          · rfl
        · simp only [room, stored, closes, if_true, Bool.false_eq_true, if_false]
          refine ⟨_, rfl, ?_⟩
          constructor
          · exact contents
          · rfl
          · rfl
      · simp only [room, Bool.false_eq_true, if_false]
        refine ⟨_, rfl, ?_⟩
        constructor
        · exact FilledBuffer.contents_clear
        · rfl
        · rfl

/-- The thread with its buffer, and the calls it has made. -/
structure UartStoredRun (config : Config) where
  locals : UartRxLocals config
  published : List (List Byte) := []

namespace UartStoredRun

/-- Read one byte, if all accesses are in bounds. -/
def step (run : UartStoredRun config) (ch : Byte) : Option (UartStoredRun config) :=
  match uartRxByteStored run.locals ch with
  | none => none
  | some (locals, line) => some { locals, published := run.published ++ line.toList }

/-- The thread as it starts; `line[]` has not been written yet. -/
def Initial (run : UartStoredRun config) : Prop :=
  ∃ cells, run = { locals := { line := { cells } } }

def machine (config : Config) : Machine (UartStoredRun config) Byte where
  init := Initial
  step := step

/-- The run on the buffer is at the state of the run on lines. -/
structure Follows (stored : UartStoredRun config) (run : UartRun) : Prop where
  holds : stored.locals.Holds run.uart
  published : stored.published = run.published

theorem Follows.of_initial {start : UartStoredRun config} (initial : start.Initial) :
    start.Follows {} := by
  obtain ⟨cells, rfl⟩ := initial
  constructor
  · constructor
    · simp [FilledBuffer.contents]
    · rfl
    · rfl
  · rfl

theorem Follows.exists_step {stored : UartStoredRun config} {run : UartRun}
    (follows : stored.Follows run) (ch : Byte) :
    ∃ next, stored.step ch = some next ∧ next.Follows (run.read config ch) := by
  obtain ⟨locals, moved, holds⟩ := uartRxByteStored_refines follows.holds ch
  refine ⟨{ locals, published := stored.published ++ (uartRxByte config run.uart ch).2.toList },
    ?_, ?_⟩
  · simp [step, moved]
  · constructor
    · exact holds
    · exact congrArg (· ++ (uartRxByte config run.uart ch).2.toList) follows.published

/-- No run leaves the buffer. -/
theorem exists_exec {start : UartStoredRun config} (initial : start.Initial)
    (stream : List Byte) :
    ∃ stored, (machine config).exec start stream = some stored ∧
      stored.Follows (stream.foldl (UartRun.read config) {}) := by
  induction stream using List.reverseRecOn with
  | nil => exact ⟨start, rfl, .of_initial initial⟩
  | append_singleton stream ch ih =>
      obtain ⟨stored, ran, follows⟩ := ih
      obtain ⟨next, moved, follows⟩ := follows.exists_step ch
      refine ⟨next, Machine.exec_concat_eq_some.mpr ⟨stored, ran, moved⟩, ?_⟩
      rw [List.foldl_append]
      exact follows

end UartStoredRun

/-- On every stream, the thread keeps newlines out of its buffer and publishes lines. -/
theorem publishedLine_of_mem (config : Config) (stream : List Byte) :
    (stream.foldl (UartRun.read config) {}).uart.Unfinished ∧
      ∀ line ∈ (stream.foldl (UartRun.read config) {}).published, PublishedLine config line := by
  induction stream using List.reverseRecOn with
  | nil => exact ⟨List.not_mem_nil, fun line member => nomatch member⟩
  | append_singleton stream ch ih =>
      obtain ⟨unfinished, published⟩ := ih
      have next := uartRxByte_unfinished config unfinished ch
      rw [List.foldl_append]
      constructor
      · exact next.1
      · intro line member
        cases List.mem_append.mp member with
        | inl earlier => exact published line earlier
        | inr last => exact next.2 line (Option.mem_toList.mp last)

end EspNmeaBridge
