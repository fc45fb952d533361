import EspNmeaBridge.Config
import EspNmeaBridge.Library.Segments

/-!
# UART framing

The receive thread of `uart_nmea.c`: a byte-at-a-time state machine that collects
a line, publishes it at its newline, and discards a line that outgrows the line
buffer.  The reference is the cut of the byte stream after each newline.

The byte that finds the buffer full is dropped before it is looked at.  When that
byte is itself a newline, the thread waits for another one, so the following
segment is swallowed unread.  `Framing.swallowed` names these segments in terms
of the stream alone, and `uartRxThread_eq` describes the thread's whole behaviour
in terms of them.
-/

namespace EspNmeaBridge

open Library

/-- `'\n'` -/
def newline : Byte := 10

/-- `struct uart_nmea_stats` -/
structure UartNmeaStats where
  bytesRx : UInt32 := 0
  linesRx : UInt32 := 0
  overlongLines : UInt32 := 0
  deriving DecidableEq, Repr

/-- The locals of `uart_rx_thread` that survive from byte to byte, and the
module's counters.  `line` is the filled part `line[0..line_len)` of the buffer. -/
structure UartRx where
  line : List Byte := []
  droppingOverlong : Bool := false
  stats : UartNmeaStats := {}
  deriving DecidableEq, Repr

/-- One pass of the inner loop of `uart_rx_thread` for a byte `uart_poll_in` has
delivered, with the line handed to `nmea_bridge_publish_frame`, if any. -/
def uartRxByte (config : Config) (uart : UartRx) (ch : Byte) : UartRx × Option (List Byte) :=
  let uart := { uart with stats.bytesRx := uart.stats.bytesRx + 1 }
  if uart.droppingOverlong then
    if ch = newline then
      ({ uart with droppingOverlong := false, line := [] }, none)
    else
      (uart, none)
  else if uart.line.length < config.nmeaFrameMaxLen then
    let line := uart.line ++ [ch]
    if ch = newline then
      ({ uart with stats.linesRx := uart.stats.linesRx + 1, line := [] }, some line)
    else
      ({ uart with line }, none)
  else
    ({ uart with
        stats.overlongLines := uart.stats.overlongLines + 1
        droppingOverlong := true
        line := [] }, none)

/-- The thread's state together with the lines published so far. -/
structure UartRun where
  uart : UartRx := {}
  published : List (List Byte) := []
  deriving DecidableEq, Repr

/-- Read one byte and append what it publishes. -/
def UartRun.read (config : Config) (run : UartRun) (ch : Byte) : UartRun :=
  let (uart, line) := uartRxByte config run.uart ch
  { uart, published := run.published ++ line.toList }

/-- One pass of the outer loop: `uart_poll_in` yields the bytes of one poll round
and then reports that there is no more.  The sleep after an empty round changes
no state. -/
def UartRun.pollRound (config : Config) (run : UartRun) (round : List Byte) : UartRun :=
  round.foldl (UartRun.read config) run

/-- `uart_rx_thread` over the poll rounds it has gone through. -/
def uartRxThread (config : Config) (rounds : List (List Byte)) : UartRun :=
  rounds.foldl (UartRun.pollRound config) {}

end EspNmeaBridge
