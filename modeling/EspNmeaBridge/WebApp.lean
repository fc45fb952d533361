import EspNmeaBridge.BridgeTelemetry
import EspNmeaBridge.Config
import EspNmeaBridge.Library.Format

/-!
# The web app

One request and its response, as `web_app.c` computes them.  A response is the list of
buffers that are handed to `send_all`, whose result the callers discard.  There is no
response where a buffer would be read beyond what has been stored in it.
-/

namespace EspNmeaBridge

open Library

/-- `WEB_APP_RX_BUF_SIZE` -/
def webAppRxBufSize : Nat := 384

/-- `WEB_APP_JSON_BUF_SIZE` -/
def webAppJsonBufSize : Nat := 1024

/-- The files the build embeds in the image; their sizes are of type `size_t`. -/
structure WebAssetFiles where
  indexHtml : List Byte
  appJs : List Byte
  styleCss : List Byte
  indexHtml_size : indexHtml.length < 2 ^ 32
  appJs_size : appJs.length < 2 ^ 32
  styleCss_size : styleCss.length < 2 ^ 32

/-- `struct web_asset`, with the bytes between `start` and `end`. -/
structure WebAsset where
  path : String
  contentType : String
  contents : List Byte
  deriving DecidableEq, Repr

namespace WebApp

/-- `assets` -/
def assets (files : WebAssetFiles) : List WebAsset := [
  { path := "/", contentType := "text/html; charset=utf-8", contents := files.indexHtml },
  { path := "/index.html", contentType := "text/html; charset=utf-8", contents := files.indexHtml },
  { path := "/app.js", contentType := "application/javascript", contents := files.appJs },
  { path := "/style.css", contentType := "text/css; charset=utf-8", contents := files.styleCss }]

/-- The size of `header`. -/
def headerBufSize : Nat := 192

/-- String literals that stand next to each other. -/
def joined (literals : List String) : List Char := literals.flatMap String.toList

/-- The format of `write_response_header`. -/
def headerFormat : List Char := joined [
  "HTTP/1.1 %s\r\nContent-Type: %s\r\nContent-Length: %zu\r\n",
  "Connection: close\r\nCache-Control: no-store\r\n\r\n"]

/-- `write_response_header` -/
def writeResponseHeader (status contentType : String) (contentLen : Nat) :
    Option (List (List Byte)) :=
  match snprintf headerBufSize headerFormat
      [.string status.toList, .string contentType.toList, .size contentLen] with
  | none => none
  | some header =>
      if header.returned > 0 then
        if header.returned ≤ header.stored.length then
          some [header.stored.take header.returned]
        else none
      else some []

/-- `write_text_response`; the body is a C string. -/
def writeTextResponse (status contentType : String) (body : List Byte) :
    Option (List (List Byte)) :=
  (writeResponseHeader status contentType (strlen body)).map (· ++ [untilNul body])

/-- `write_asset_response` -/
def writeAssetResponse (asset : WebAsset) : Option (List (List Byte)) :=
  (writeResponseHeader "200 OK" asset.contentType asset.contents.length).map
    (· ++ [asset.contents])

/-- The format of `write_status_json`. -/
def statusFormat : List Char := joined [
  "\x7b\"connection_state\":\"%s\",\"input_state\":\"%s\",",
  "\"warnings\":\x7b\"data_quality\":%s,\"frame_loss\":%s\x7d,",
  "\"wifi\":\x7b\"sta_ready\":%s\x7d,",
  "\"uart\":\x7b\"bytes_rx\":%u,\"lines_rx\":%u,\"overlong_lines\":%u\x7d,",
  "\"bridge\":\x7b\"frames_in\":%u,\"ingest_dropped_oldest\":%u,",
  "\"sink_dropped_oldest\":%u,\"publish_no_sinks\":%u,",
  "\"publish_invalid\":%u,\"publish_oversize\":%u\x7d,",
  "\"tcp\":\x7b\"active_sessions\":%u\x7d,",
  "\"tcp_server\":\x7b\"active_clients\":%u,\"max_clients\":%u\x7d\x7d"]

/-- The arguments of `snprintk` in `write_status_json`. -/
def statusArgs (snapshot : BridgeTelemetrySnapshot) : List FormatArg :=
  let counters := snapshot.counters
  let connectionState :=
    if snapshot.connectionState = .connected then "connected" else "disconnected"
  let inputState := if snapshot.inputState = .active then "active" else "idle"
  [.string connectionState.toList, .string inputState.toList,
    .string (if snapshot.warnings.dataQuality then "true" else "false").toList,
    .string (if snapshot.warnings.frameLoss then "true" else "false").toList,
    .string (if snapshot.staReady then "true" else "false").toList,
    .unsigned counters.uartBytesRx, .unsigned counters.uartLinesRx,
    .unsigned counters.uartOverlongLines,
    .unsigned counters.bridgeFramesIn, .unsigned counters.bridgeIngestDroppedOldest,
    .unsigned counters.bridgeSinkDroppedOldest, .unsigned counters.bridgePublishNoSinks,
    .unsigned counters.bridgePublishInvalid, .unsigned counters.bridgePublishOversize,
    .unsigned counters.tcpNmeaActiveSessions,
    .unsigned counters.tcpServerActiveClients, .unsigned counters.tcpServerMaxClients]

/-- `write_status_json`, with what `bridge_telemetry_get_snapshot` returns. -/
def writeStatusJson (snapshot : BridgeTelemetrySnapshot) : Option (List (List Byte)) :=
  match snprintf webAppJsonBufSize statusFormat (statusArgs snapshot) with
  | none => none
  | some body => writeTextResponse "200 OK" "application/json" body.stored

/-- `find_asset` -/
def findAsset (files : WebAssetFiles) (path : List Byte) (pathLen : Nat) : Option WebAsset :=
  (assets files).find? fun asset =>
    strlen (cString asset.path) = pathLen ∧ strncmp path (cString asset.path) pathLen = 0

/-- `handle_client`, with the bytes `zsock_recv` has stored; there are none if it has
returned zero or an error. -/
def handleClient (files : WebAssetFiles) (snapshot : BridgeTelemetrySnapshot)
    (received : List Byte) : Option (List (List Byte)) :=
  if received = [] then some []
  else
    let request := received ++ [0]
    if strncmp request (cString "GET ") 4 ≠ 0 then
      writeTextResponse "405 Method Not Allowed" "text/plain; charset=utf-8"
        (cString "method not allowed\n")
    else
      let path := request.drop 4
      match strchr path 32 with
      | none =>
          writeTextResponse "400 Bad Request" "text/plain; charset=utf-8"
            (cString "bad request\n")
      | some pathLen =>
          if strncmp path (cString "/api/status") pathLen = 0 ∧
              pathLen = strlen (cString "/api/status") then
            writeStatusJson snapshot
          else
            match findAsset files path pathLen with
            | some asset => writeAssetResponse asset
            | none =>
                writeTextResponse "404 Not Found" "text/plain; charset=utf-8"
                  (cString "not found\n")

end WebApp

end EspNmeaBridge
