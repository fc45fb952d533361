import EspNmeaBridge.Library.Json
import EspNmeaBridge.WebApp.Response

/-!
# The status response

The text `write_status_json` prints is that of a JSON object, whole and in ASCII, and
what `app.js` reads from it is the snapshot.
-/

namespace EspNmeaBridge

open Library

namespace WebApp

/-- The value of a counter. -/
def counterJson (value : UInt32) : Json := .number value.toNat 0

def connectionStateText (state : BridgeTelemetryNmeaConnectionState) : String :=
  if state = .connected then "connected" else "disconnected"

def inputStateText (state : BridgeTelemetryNmeaInputState) : String :=
  if state = .active then "active" else "idle"

/-- The object of a snapshot. -/
def statusJson (snapshot : BridgeTelemetrySnapshot) : Json :=
  let counters := snapshot.counters
  .object [
    ("connection_state", .string (connectionStateText snapshot.connectionState)),
    ("input_state", .string (inputStateText snapshot.inputState)),
    ("warnings", .object [
      ("data_quality", .bool snapshot.warnings.dataQuality),
      ("frame_loss", .bool snapshot.warnings.frameLoss)]),
    ("wifi", .object [("sta_ready", .bool snapshot.staReady)]),
    ("uart", .object [
      ("bytes_rx", counterJson counters.uartBytesRx),
      ("lines_rx", counterJson counters.uartLinesRx),
      ("overlong_lines", counterJson counters.uartOverlongLines)]),
    ("bridge", .object [
      ("frames_in", counterJson counters.bridgeFramesIn),
      ("ingest_dropped_oldest", counterJson counters.bridgeIngestDroppedOldest),
      ("sink_dropped_oldest", counterJson counters.bridgeSinkDroppedOldest),
      ("publish_no_sinks", counterJson counters.bridgePublishNoSinks),
      ("publish_invalid", counterJson counters.bridgePublishInvalid),
      ("publish_oversize", counterJson counters.bridgePublishOversize)]),
    ("tcp", .object [("active_sessions", counterJson counters.tcpNmeaActiveSessions)]),
    ("tcp_server", .object [
      ("active_clients", counterJson counters.tcpServerActiveClients),
      ("max_clients", counterJson counters.tcpServerMaxClients)])]

section Format

variable {format rest : List Char} {args : List FormatArg}

theorem formatted_states (printed : formatted format args = some rest)
    (connection : BridgeTelemetryNmeaConnectionState) (input : BridgeTelemetryNmeaInputState) :
    formatted
        ("\x7b\"connection_state\":\"%s\",\"input_state\":\"%s\",".toList ++ format)
        (.string (connectionStateText connection).toList ::
          .string (inputStateText input).toList :: args) =
      some ('\x7b' :: Json.renderString "connection_state" (':' ::
        Json.render (.string (connectionStateText connection)) (',' ::
        Json.renderString "input_state" (':' ::
        Json.render (.string (inputStateText input)) (',' :: rest))))) := by
  cases connection <;> cases input <;>
    simp [connectionStateText, inputStateText, formatted_other, formatted, printed, Json.render,
      Json.renderString, Json.renderChar]

theorem formatted_warnings (printed : formatted format args = some rest)
    (dataQuality frameLoss : Bool) :
    formatted ("\"warnings\":\x7b\"data_quality\":%s,\"frame_loss\":%s\x7d,".toList ++ format)
        (.string (if dataQuality then "true" else "false").toList ::
          .string (if frameLoss then "true" else "false").toList :: args) =
      some (Json.renderString "warnings" (':' ::
        Json.render (.object [("data_quality", .bool dataQuality),
          ("frame_loss", .bool frameLoss)]) (',' :: rest))) := by
  cases dataQuality <;> cases frameLoss <;>
    simp [formatted_other, formatted, printed, Json.render, Json.renderMembers, Json.renderString,
      Json.renderChar]

theorem formatted_wifi (printed : formatted format args = some rest) (staReady : Bool) :
    formatted ("\"wifi\":\x7b\"sta_ready\":%s\x7d,".toList ++ format)
        (.string (if staReady then "true" else "false").toList :: args) =
      some (Json.renderString "wifi" (':' ::
        Json.render (.object [("sta_ready", .bool staReady)]) (',' :: rest))) := by
  cases staReady <;>
    simp [formatted_other, formatted, printed, Json.render, Json.renderMembers, Json.renderString,
      Json.renderChar]

theorem formatted_uart (printed : formatted format args = some rest)
    (bytesRx linesRx overlongLines : UInt32) :
    formatted
        ("\"uart\":\x7b\"bytes_rx\":%u,\"lines_rx\":%u,\"overlong_lines\":%u\x7d,".toList ++ format)
        (.unsigned bytesRx :: .unsigned linesRx :: .unsigned overlongLines :: args) =
      some (Json.renderString "uart" (':' ::
        Json.render (.object [("bytes_rx", counterJson bytesRx), ("lines_rx", counterJson linesRx),
          ("overlong_lines", counterJson overlongLines)]) (',' :: rest))) := by
  simp [formatted_other, formatted, printed, FormatArg.text, Json.render, Json.renderMembers,
    Json.renderString, Json.renderChar, counterJson, Json.renderNumber, Json.renderInt]

theorem formatted_bridge (printed : formatted format args = some rest)
    (framesIn ingestDroppedOldest sinkDroppedOldest publishNoSinks publishInvalid
      publishOversize : UInt32) :
    formatted
        ("\"bridge\":\x7b\"frames_in\":%u,\"ingest_dropped_oldest\":%u,".toList ++
          ("\"sink_dropped_oldest\":%u,\"publish_no_sinks\":%u,".toList ++
          ("\"publish_invalid\":%u,\"publish_oversize\":%u\x7d,".toList ++ format)))
        (.unsigned framesIn :: .unsigned ingestDroppedOldest :: .unsigned sinkDroppedOldest ::
          .unsigned publishNoSinks :: .unsigned publishInvalid :: .unsigned publishOversize ::
          args) =
      some (Json.renderString "bridge" (':' ::
        Json.render (.object [("frames_in", counterJson framesIn),
          ("ingest_dropped_oldest", counterJson ingestDroppedOldest),
          ("sink_dropped_oldest", counterJson sinkDroppedOldest),
          ("publish_no_sinks", counterJson publishNoSinks),
          ("publish_invalid", counterJson publishInvalid),
          ("publish_oversize", counterJson publishOversize)]) (',' :: rest))) := by
  simp [formatted_other, formatted, printed, FormatArg.text, Json.render, Json.renderMembers,
    Json.renderString, Json.renderChar, counterJson, Json.renderNumber, Json.renderInt]

theorem formatted_tcp (printed : formatted format args = some rest) (activeSessions : UInt32) :
    formatted ("\"tcp\":\x7b\"active_sessions\":%u\x7d,".toList ++ format)
        (.unsigned activeSessions :: args) =
      some (Json.renderString "tcp" (':' ::
        Json.render (.object [("active_sessions", counterJson activeSessions)])
          (',' :: rest))) := by
  simp [formatted_other, formatted, printed, FormatArg.text, Json.render, Json.renderMembers,
    Json.renderString, Json.renderChar, counterJson, Json.renderNumber, Json.renderInt]

theorem formatted_tcpServer (activeClients maxClients : UInt32) :
    formatted "\"tcp_server\":\x7b\"active_clients\":%u,\"max_clients\":%u\x7d\x7d".toList
        [.unsigned activeClients, .unsigned maxClients] =
      some (Json.renderString "tcp_server" (':' ::
        Json.render (.object [("active_clients", counterJson activeClients),
          ("max_clients", counterJson maxClients)]) ['\x7d'])) := by
  simp [formatted_other, formatted, FormatArg.text, Json.render, Json.renderMembers,
    Json.renderString, Json.renderChar, counterJson, Json.renderNumber, Json.renderInt]

/-- The format and its arguments print the object. -/
theorem formatted_status (snapshot : BridgeTelemetrySnapshot) :
    formatted statusFormat (statusArgs snapshot) =
      some ((statusJson snapshot).render []) := by
  have tcpServer := formatted_tcpServer snapshot.counters.tcpServerActiveClients
    snapshot.counters.tcpServerMaxClients
  have tcp := formatted_tcp tcpServer snapshot.counters.tcpNmeaActiveSessions
  have bridge := formatted_bridge tcp snapshot.counters.bridgeFramesIn
    snapshot.counters.bridgeIngestDroppedOldest snapshot.counters.bridgeSinkDroppedOldest
    snapshot.counters.bridgePublishNoSinks snapshot.counters.bridgePublishInvalid
    snapshot.counters.bridgePublishOversize
  have uart := formatted_uart bridge snapshot.counters.uartBytesRx snapshot.counters.uartLinesRx
    snapshot.counters.uartOverlongLines
  have wifi := formatted_wifi uart snapshot.staReady
  have warnings := formatted_warnings wifi snapshot.warnings.dataQuality
    snapshot.warnings.frameLoss
  have states := formatted_states warnings snapshot.connectionState snapshot.inputState
  rw [statusJson, Json.render]
  simp only [statusFormat, joined, List.flatMap_cons, List.flatMap_nil, List.append_nil,
    Json.renderMembers, -String.reduceToList]
  exact states

end Format

section Reading

/-- A counter as `app.js` reads it. -/
def readCounter (status : Json) (path : List String) : Option UInt32 :=
  match status.path? path with
  | some (.number value 0) =>
      if 0 ≤ value ∧ value < 2 ^ 32 then some (UInt32.ofNat value.toNat) else none
  | _ => none

def readFlag (status : Json) (path : List String) : Option Bool :=
  match status.path? path with
  | some (.bool value) => some value
  | _ => none

def readConnectionState (status : Json) : Option BridgeTelemetryNmeaConnectionState :=
  match status.path? ["connection_state"] with
  | some (.string text) =>
      if text = "connected" then some .connected
      else if text = "disconnected" then some .disconnected
      else none
  | _ => none

def readInputState (status : Json) : Option BridgeTelemetryNmeaInputState :=
  match status.path? ["input_state"] with
  | some (.string text) =>
      if text = "active" then some .active
      else if text = "idle" then some .idle
      else none
  | _ => none

/-- What `render` in `app.js` reads. -/
def readStatus (status : Json) : Option BridgeTelemetrySnapshot := do
  let connectionState ← readConnectionState status
  let inputState ← readInputState status
  let staReady ← readFlag status ["wifi", "sta_ready"]
  let bridgeFramesIn ← readCounter status ["bridge", "frames_in"]
  let uartBytesRx ← readCounter status ["uart", "bytes_rx"]
  let tcpServerActiveClients ← readCounter status ["tcp_server", "active_clients"]
  let tcpServerMaxClients ← readCounter status ["tcp_server", "max_clients"]
  let bridgeSinkDroppedOldest ← readCounter status ["bridge", "sink_dropped_oldest"]
  let dataQuality ← readFlag status ["warnings", "data_quality"]
  let frameLoss ← readFlag status ["warnings", "frame_loss"]
  let tcpNmeaActiveSessions ← readCounter status ["tcp", "active_sessions"]
  let uartLinesRx ← readCounter status ["uart", "lines_rx"]
  let uartOverlongLines ← readCounter status ["uart", "overlong_lines"]
  let bridgeIngestDroppedOldest ← readCounter status ["bridge", "ingest_dropped_oldest"]
  let bridgePublishNoSinks ← readCounter status ["bridge", "publish_no_sinks"]
  let bridgePublishInvalid ← readCounter status ["bridge", "publish_invalid"]
  let bridgePublishOversize ← readCounter status ["bridge", "publish_oversize"]
  some {
    connectionState, inputState, staReady
    warnings := { dataQuality, frameLoss }
    counters := {
      uartBytesRx, uartLinesRx, uartOverlongLines, bridgeFramesIn, bridgeIngestDroppedOldest
      bridgeSinkDroppedOldest, bridgePublishNoSinks, bridgePublishInvalid, bridgePublishOversize
      tcpNmeaActiveSessions, tcpServerActiveClients, tcpServerMaxClients } }

theorem readCounter_of_path {status : Json} {path : List String} {value : UInt32}
    (found : status.path? path = some (counterJson value)) :
    readCounter status path = some value := by
  have range : (0 : Int) ≤ value.toNat ∧ (value.toNat : Int) < 2 ^ 32 := by
    have bound := value.toNat_lt
    omega
  simp only [readCounter, found, counterJson, if_pos range, Int.toNat_natCast, UInt32.ofNat_toNat]

theorem readConnectionState_statusJson (snapshot : BridgeTelemetrySnapshot) :
    readConnectionState (statusJson snapshot) = some snapshot.connectionState := by
  cases state : snapshot.connectionState <;>
    simp [readConnectionState, statusJson, Json.path?, Json.member?, connectionStateText, state]

theorem readInputState_statusJson (snapshot : BridgeTelemetrySnapshot) :
    readInputState (statusJson snapshot) = some snapshot.inputState := by
  cases state : snapshot.inputState <;>
    simp [readInputState, statusJson, Json.path?, Json.member?, inputStateText, state]

theorem readFlag_statusJson (snapshot : BridgeTelemetrySnapshot) :
    readFlag (statusJson snapshot) ["wifi", "sta_ready"] = some snapshot.staReady ∧
      readFlag (statusJson snapshot) ["warnings", "data_quality"] =
        some snapshot.warnings.dataQuality ∧
      readFlag (statusJson snapshot) ["warnings", "frame_loss"] =
        some snapshot.warnings.frameLoss := by
  simp [readFlag, statusJson, Json.path?, Json.member?]

/-- The counters, each with the path it is read from. -/
def counterPaths (counters : BridgeTelemetryCounters) : List (List String × UInt32) := [
  (["bridge", "frames_in"], counters.bridgeFramesIn),
  (["uart", "bytes_rx"], counters.uartBytesRx),
  (["tcp_server", "active_clients"], counters.tcpServerActiveClients),
  (["tcp_server", "max_clients"], counters.tcpServerMaxClients),
  (["bridge", "sink_dropped_oldest"], counters.bridgeSinkDroppedOldest),
  (["tcp", "active_sessions"], counters.tcpNmeaActiveSessions),
  (["uart", "lines_rx"], counters.uartLinesRx),
  (["uart", "overlong_lines"], counters.uartOverlongLines),
  (["bridge", "ingest_dropped_oldest"], counters.bridgeIngestDroppedOldest),
  (["bridge", "publish_no_sinks"], counters.bridgePublishNoSinks),
  (["bridge", "publish_invalid"], counters.bridgePublishInvalid),
  (["bridge", "publish_oversize"], counters.bridgePublishOversize)]

theorem path?_counterPaths (snapshot : BridgeTelemetrySnapshot) :
    ∀ entry ∈ counterPaths snapshot.counters,
      (statusJson snapshot).path? entry.1 = some (counterJson entry.2) := by
  simp [counterPaths, statusJson, Json.path?, Json.member?]

/-- Everything is under the key it is read from. -/
theorem readStatus_statusJson (snapshot : BridgeTelemetrySnapshot) :
    readStatus (statusJson snapshot) = some snapshot := by
  have counters : ∀ entry ∈ counterPaths snapshot.counters,
      readCounter (statusJson snapshot) entry.1 = some entry.2 := by
    intro entry member
    exact readCounter_of_path (path?_counterPaths snapshot entry member)
  simp only [counterPaths, List.forall_mem_cons] at counters
  obtain ⟨staReady, dataQuality, frameLoss⟩ := readFlag_statusJson snapshot
  simp [readStatus, readConnectionState_statusJson, readInputState_statusJson, staReady,
    dataQuality, frameLoss, counters]

end Reading

section Sent

/-- The text `app.js` receives for a snapshot. -/
def statusText (snapshot : BridgeTelemetrySnapshot) : List Char := (statusJson snapshot).render []

/-- The response with the text. -/
def statusResponse (snapshot : BridgeTelemetrySnapshot) : HttpResponse where
  status := "200 OK"
  contentType := "application/json"
  body := cBytes (statusText snapshot)

/-- The counters in the order in which they are printed. -/
def printedCounters (counters : BridgeTelemetryCounters) : List UInt32 := [
  counters.uartBytesRx, counters.uartLinesRx, counters.uartOverlongLines,
  counters.bridgeFramesIn, counters.bridgeIngestDroppedOldest,
  counters.bridgeSinkDroppedOldest, counters.bridgePublishNoSinks,
  counters.bridgePublishInvalid, counters.bridgePublishOversize,
  counters.tcpNmeaActiveSessions, counters.tcpServerActiveClients,
  counters.tcpServerMaxClients]

/-- A printed argument is short and in ASCII. -/
structure ShortArg (arg : FormatArg) : Prop where
  length : arg.text.length ≤ 12
  ascii : Ascii arg.text

theorem shortArg_unsigned (value : UInt32) : ShortArg (.unsigned value) where
  length := by
    have digits : (Nat.toDigits 10 value.toNat).length ≤ 10 := by
      rw [Nat.length_toDigits_le_iff (by decide) (by decide)]
      exact Nat.lt_trans value.toNat_lt (by decide)
    exact Nat.le_trans digits (by decide)
  ascii := by
    intro c member
    have digit := Nat.isDigit_of_mem_toDigits (by decide) (by decide) member
    rw [Char.isDigit_iff_toNat] at digit
    exact ⟨Nat.lt_of_lt_of_le (by decide) digit.1, Nat.lt_of_le_of_lt digit.2 (by decide)⟩

theorem shortArg_flag (flag : Bool) :
    ShortArg (.string (if flag then "true" else "false").toList) := by
  cases flag with
  | true => exact ⟨by decide, by decide⟩
  | false => exact ⟨by decide, by decide⟩

theorem shortArg_connectionState (state : BridgeTelemetryNmeaConnectionState) :
    ShortArg (.string (connectionStateText state).toList) := by
  cases state with
  | connected => exact ⟨by decide, by decide⟩
  | disconnected => exact ⟨by decide, by decide⟩

theorem shortArg_inputState (state : BridgeTelemetryNmeaInputState) :
    ShortArg (.string (inputStateText state).toList) := by
  cases state with
  | active => exact ⟨by decide, by decide⟩
  | idle => exact ⟨by decide, by decide⟩

theorem shortArg_statusArgs (snapshot : BridgeTelemetrySnapshot) :
    ∀ arg ∈ statusArgs snapshot, ShortArg arg := by
  have args : statusArgs snapshot =
      [.string (connectionStateText snapshot.connectionState).toList,
        .string (inputStateText snapshot.inputState).toList,
        .string (if snapshot.warnings.dataQuality then "true" else "false").toList,
        .string (if snapshot.warnings.frameLoss then "true" else "false").toList,
        .string (if snapshot.staReady then "true" else "false").toList] ++
      (printedCounters snapshot.counters).map FormatArg.unsigned := rfl
  rw [args, List.forall_mem_append]
  constructor
  · simp only [List.forall_mem_cons, shortArg_connectionState, shortArg_inputState, shortArg_flag,
      List.not_mem_nil, false_implies, implies_true, and_true]
  · rw [List.forall_mem_map]
    exact fun value _ => shortArg_unsigned value

theorem length_statusFormat : statusFormat.length ≤ 500 := by decide +kernel

theorem ascii_statusFormat : Ascii statusFormat := by decide +kernel

/-- The text fits its buffer, however large the counters are. -/
theorem length_statusText_lt (snapshot : BridgeTelemetrySnapshot) :
    (statusText snapshot).length < webAppJsonBufSize := by
  have args : (statusArgs snapshot).length = 17 := rfl
  have bound := length_formatted_le 12
    (fun arg member => (shortArg_statusArgs snapshot arg member).length) (formatted_status snapshot)
  rw [args] at bound
  calc
    (statusText snapshot).length ≤ statusFormat.length + 17 * 12 := bound
    _ ≤ 500 + 17 * 12 := Nat.add_le_add_right length_statusFormat _
    _ < webAppJsonBufSize := by decide

theorem ascii_statusText (snapshot : BridgeTelemetrySnapshot) : Ascii (statusText snapshot) :=
  forall_mem_formatted _ ascii_statusFormat
    (fun arg member => (shortArg_statusArgs snapshot arg member).ascii) (formatted_status snapshot)

theorem fits_statusResponse (snapshot : BridgeTelemetrySnapshot) :
    (statusResponse snapshot).Fits where
  status := by simp [statusResponse]
  contentType := by simp [statusResponse]
  body := by
    change (cBytes (statusText snapshot)).length < 2 ^ 32
    rw [length_cBytes]
    exact Nat.lt_trans (length_statusText_lt snapshot) (by decide)

/-- The text is sent as a whole: it is not cut, and there is no NUL in it. -/
theorem writeStatusJson_eq (snapshot : BridgeTelemetrySnapshot) :
    writeStatusJson snapshot = some (statusResponse snapshot).buffers := by
  have body : untilNul (cBytes (statusText snapshot) ++ [0]) = (statusResponse snapshot).body :=
    untilNul_append (ascii_statusText snapshot).zero_notMem_cBytes []
  have printed : formatted statusFormat (statusArgs snapshot) = some (statusText snapshot) :=
    formatted_status snapshot
  have stored := snprintf_of_fits printed (length_statusText_lt snapshot)
  have written := writeTextResponse_eq (statusResponse snapshot) (fits_statusResponse snapshot) body
  unfold writeStatusJson
  rw [stored, ← written]
  rfl

/-- The way of a snapshot to the browser as `text`, and back. -/
structure StatusRoundTrip (snapshot : BridgeTelemetrySnapshot) (text : List Char) : Prop where
  printed : formatted statusFormat (statusArgs snapshot) = some text
  fits : text.length < webAppJsonBufSize
  sent : writeStatusJson snapshot = some [
    cBytes (joined ["HTTP/1.1 ", "200 OK", "\r\nContent-Type: ", "application/json",
        "\r\nContent-Length: "] ++
      Nat.toDigits 10 (cBytes text).length ++
      "\r\nConnection: close\r\nCache-Control: no-store\r\n\r\n".toList),
    cBytes text]
  utf8 : (String.ofList text).toUTF8.data.toList = cBytes text
  object : ∃ members, Json.parse text = some (.object members) ∧
    readStatus (.object members) = some snapshot

/-- Every snapshot is sent as the text of one JSON object, whose length is announced,
and is what `app.js` reads from that object. -/
theorem statusRoundTrips (snapshot : BridgeTelemetrySnapshot) :
    ∃ text, StatusRoundTrip snapshot text := by
  exists statusText snapshot
  constructor
  · exact formatted_status snapshot
  · exact length_statusText_lt snapshot
  · rw [writeStatusJson_eq, HttpResponse.buffers, HttpResponse.header, HttpResponse.headerText]
    rfl
  · rw [String.toUTF8_eq_toByteArray]
    exact (ascii_statusText snapshot).toByteArray_ofList
  · have parsed := Json.parse_render (statusJson snapshot)
    have read := readStatus_statusJson snapshot
    obtain ⟨members, object⟩ : ∃ members, statusJson snapshot = .object members := ⟨_, rfl⟩
    rw [object] at read
    exists members
    constructor
    · rw [statusText, parsed, object]
    · exact read

end Sent

end WebApp

end EspNmeaBridge
