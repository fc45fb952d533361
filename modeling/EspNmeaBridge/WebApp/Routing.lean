import EspNmeaBridge.WebApp.StatusJson
import Mathlib.Data.List.Find

/-!
# Routing

What the web app answers to a request, and how the answer depends on how the network
cuts the request: `handle_client` reads once, and takes what it gets for the whole
request line.
-/

namespace EspNmeaBridge

open Library

namespace WebApp

section Answer

/-- The answer to a path. -/
def resource (files : WebAssetFiles) (snapshot : BridgeTelemetrySnapshot) (path : List Byte) :
    HttpResponse :=
  if path = cString "/api/status" then statusResponse snapshot
  else
    match (assets files).find? fun asset => path = cString asset.path with
    | some asset => assetResponse asset
    | none => notFound

/-- The answer to what is taken for a request. -/
def responseTo (files : WebAssetFiles) (snapshot : BridgeTelemetrySnapshot)
    (received : List Byte) : HttpResponse :=
  if cString "GET " <+: received then
    match before 32 (received.drop 4) with
    | some path => resource files snapshot path
    | none => badRequest
  else methodNotAllowed

variable {files : WebAssetFiles} {snapshot : BridgeTelemetrySnapshot} {path : List Byte}

/-- The paths of the assets. -/
def assetPaths : List String := ["/", "/index.html", "/app.js", "/style.css"]

/-- The paths that are served. -/
def servedPaths : List String := "/api/status" :: assetPaths

theorem path_mem_assetPaths {asset : WebAsset} (member : asset ∈ assets files) :
    asset.path ∈ assetPaths :=
  List.mem_map_of_mem (f := WebAsset.path) member

theorem strlen_assetPath {asset : WebAsset} (member : asset ∈ assets files) :
    strlen (cString asset.path) = (cString asset.path).length := by
  have visible : ∀ path ∈ assetPaths, 0 ∉ cString path := by decide
  rw [strlen, untilNul_of_visible (visible asset.path (path_mem_assetPaths member))]

/-- The length and the characters compared, a path is compared as a whole. -/
theorem strncmp_path_iff (visible : 0 ∉ path) (rest : List Byte) (other : List Byte) :
    other.length = path.length ∧ strncmp (path ++ rest) other path.length = 0 ↔ path = other := by
  constructor
  · intro ⟨same, equal⟩
    rw [← List.append_nil other] at equal
    exact (strncmp_eq_zero_iff same.symm visible rest []).mp equal
  · intro same
    subst same
    have equal := (strncmp_eq_zero_iff rfl visible rest []).mpr (Eq.refl path)
    rw [List.append_nil] at equal
    exact ⟨rfl, equal⟩

theorem findAsset_eq (visible : 0 ∉ path) (rest : List Byte) :
    findAsset files (path ++ rest) path.length =
      (assets files).find? fun asset => path = cString asset.path := by
  apply List.find?_congr
  intro asset member
  rw [strlen_assetPath member, decide_eq_decide]
  exact strncmp_path_iff visible rest _

/-- The answer behind `GET `, by what the blank after the path delimits. -/
theorem answer_path (visible : 0 ∉ path) (rest : List Byte) :
    (if strncmp (path ++ rest) (cString "/api/status") path.length = 0 ∧
        path.length = strlen (cString "/api/status") then
      writeStatusJson snapshot
    else
      match findAsset files (path ++ rest) path.length with
      | some asset => writeAssetResponse asset
      | none =>
          writeTextResponse "404 Not Found" "text/plain; charset=utf-8"
            (cString "not found\n")) =
      some (resource files snapshot path).buffers := by
  have status : (strncmp (path ++ rest) (cString "/api/status") path.length = 0 ∧
      path.length = strlen (cString "/api/status")) ↔ path = cString "/api/status" := by
    have length : strlen (cString "/api/status") = (cString "/api/status").length := by decide
    rw [length, and_comm, @eq_comm Nat]
    exact strncmp_path_iff visible rest _
  rw [findAsset_eq visible rest, resource]
  by_cases isStatus : path = cString "/api/status"
  · rw [if_pos (status.mpr isStatus), if_pos isStatus]
    exact writeStatusJson_eq snapshot
  · rw [if_neg (isStatus ∘ status.mp), if_neg isStatus]
    cases found : (assets files).find? fun asset => path = cString asset.path with
    | some asset => exact writeAssetResponse_eq (List.mem_of_find?_eq_some found)
    | none => exact write_notFound

/-- A request is answered as a whole: header, then body. -/
theorem handleClient_eq {received : List Byte} (request : received ≠ []) :
    handleClient files snapshot received = some (responseTo files snapshot received).buffers := by
  have visible : 0 ∉ cString "GET " := by decide
  have terminated : cString "GET " <+: received ++ [0] ↔ cString "GET " <+: received := by
    rw [List.prefix_concat_iff]
    apply or_iff_right
    intro whole
    exact visible (whole ▸ List.mem_append_right received List.mem_cons_self)
  have method := (strncmp_eq_zero_iff_isPrefix visible (received ++ [0])).trans terminated
  by_cases get : cString "GET " <+: received
  · have same : ¬ strncmp (received ++ [0]) (cString "GET ") 4 ≠ 0 := not_not.mpr (method.mpr get)
    obtain ⟨target, rfl⟩ := get
    have drop : (cString "GET " ++ target ++ [0]).drop 4 = target ++ [0] := rfl
    have drop' : (cString "GET " ++ target).drop 4 = target := rfl
    simp only [handleClient, if_neg request, if_neg same, responseTo, List.prefix_append, if_true,
      drop, drop', strchr_append_nul (by decide : (32 : Byte) ≠ 0)]
    cases found : before 32 target with
    | none => exact write_badRequest
    | some path =>
        obtain ⟨visible, rest, rfl⟩ := eq_append_of_before found
        rw [List.append_assoc]
        exact answer_path visible _
  · have other : strncmp (received ++ [0]) (cString "GET ") 4 ≠ 0 := get ∘ method.mp
    simp only [handleClient, if_neg request, if_pos other, responseTo, if_neg get]
    exact write_methodNotAllowed

end Answer

section Status

variable {files : WebAssetFiles} {snapshot : BridgeTelemetrySnapshot} {path : List Byte}
  {response other : HttpResponse}

/-- The code of the status, in the place where a browser looks for it. -/
def statusCode (header : List Byte) : List Byte := (header.drop 9).take 3

theorem exists_header_eq (response : HttpResponse) :
    ∃ rest, response.header = cString "HTTP/1.1 " ++ (cString response.status ++ rest) := by
  simp only [HttpResponse.header, HttpResponse.headerText, joined, List.flatMap_cons, cString,
    cBytes, List.map_append, List.append_assoc]
  exact ⟨_, rfl⟩

theorem statusCode_header (long : 3 ≤ (cString response.status).length) :
    statusCode response.header = (cString response.status).take 3 := by
  have nine : (cString "HTTP/1.1 ").length = 9 := by decide
  obtain ⟨rest, header⟩ := exists_header_eq response
  rw [statusCode, header, List.drop_left' nine, List.take_append_of_le_length long]

/-- Responses with different codes are different on the wire. -/
theorem statusCode_eq_of_buffers (same : some response.buffers = some other.buffers)
    (long : 3 ≤ (cString response.status).length) (long' : 3 ≤ (cString other.status).length) :
    (cString response.status).take 3 = (cString other.status).take 3 := by
  have headers : response.header = other.header := (List.cons.inj (Option.some.inj same)).1
  rw [← statusCode_header long, ← statusCode_header long', headers]

theorem status_resource :
    (resource files snapshot path).status = "200 OK" ∨
      (resource files snapshot path).status = "404 Not Found" := by
  rw [resource]
  split
  · exact Or.inl rfl
  · split
    · exact Or.inl rfl
    · exact Or.inr rfl

theorem resource_ne (long : 3 ≤ (cString other.status).length)
    (notOk : (cString "200 OK").take 3 ≠ (cString other.status).take 3)
    (notMissing : (cString "404 Not Found").take 3 ≠ (cString other.status).take 3) :
    some (resource files snapshot path).buffers ≠ some other.buffers := by
  intro same
  cases status_resource with
  | inl ok =>
      have codes := statusCode_eq_of_buffers same (by rw [ok]; decide) long
      exact notOk (ok ▸ codes)
  | inr missing =>
      have codes := statusCode_eq_of_buffers same (by rw [missing]; decide) long
      exact notMissing (missing ▸ codes)

theorem resource_of_unserved (unserved : path ∉ servedPaths.map cString) :
    resource files snapshot path = notFound := by
  rw [servedPaths, List.map_cons, List.mem_cons, not_or] at unserved
  have absent : (assets files).find? (fun asset => path = cString asset.path) = none := by
    rw [List.find?_eq_none]
    intro asset member same
    rw [decide_eq_true_eq] at same
    exact unserved.2 (same ▸ List.mem_map_of_mem (path_mem_assetPaths member))
  rw [resource, if_neg unserved.1, absent]

end Status

section Reading

variable {files : WebAssetFiles} {snapshot : BridgeTelemetrySnapshot} {path received : List Byte}

theorem responseTo_whole (noBlank : 32 ∉ path) (noNul : 0 ∉ path)
    (whole : cString "GET " ++ path ++ [32] <+: received) :
    responseTo files snapshot received = resource files snapshot path := by
  obtain ⟨rest, rfl⟩ := whole
  have get : cString "GET " <+: cString "GET " ++ path ++ [32] ++ rest := by
    rw [List.append_assoc, List.append_assoc]
    exact List.prefix_append _ _
  have target : (cString "GET " ++ path ++ [32] ++ rest).drop 4 = path ++ 32 :: rest := by
    rw [List.append_assoc, List.append_assoc]
    rfl
  simp only [responseTo, if_pos get, target, before_append noBlank noNul]

/-- A request that is cut before the blank is taken for another one. -/
theorem responseTo_cut (noBlank : 32 ∉ path) (cut : received <+: cString "GET " ++ path) :
    responseTo files snapshot received = badRequest ∨
      responseTo files snapshot received = methodNotAllowed := by
  rw [responseTo]
  split
  · next get =>
      left
      obtain ⟨target, rfl⟩ := get
      rw [List.prefix_append_right_inj] at cut
      have drop : (cString "GET " ++ target).drop 4 = target := rfl
      rw [drop]
      cases found : before 32 target with
      | none => rfl
      | some start =>
          obtain ⟨_, rest, rfl⟩ := eq_append_of_before found
          exact absurd (cut.subset (List.mem_append_right start List.mem_cons_self)) noBlank
  · exact Or.inr rfl

end Reading

section Segmentation

/-- A stream that starts with `GET `, a path and a blank; these fit the buffer. -/
structure GetRequest where
  path : List Byte
  rest : List Byte
  noBlank : 32 ∉ path
  noNul : 0 ∉ path
  fits : (cString "GET " ++ path ++ [32]).length ≤ webAppRxBufSize - 1

namespace GetRequest

def requestLine (request : GetRequest) : List Byte := cString "GET " ++ request.path ++ [32]

def stream (request : GetRequest) : List Byte := request.requestLine ++ request.rest

/-- The path is determined by the stream. -/
theorem path_eq_of_stream {request other : GetRequest} (same : request.stream = other.stream) :
    request.path = other.path := by
  have targets := congrArg (fun stream => before 32 (stream.drop 4)) same
  have target : ∀ request : GetRequest,
      request.stream.drop 4 = request.path ++ 32 :: request.rest := by
    intro request
    rw [stream, requestLine, List.append_assoc, List.append_assoc]
    rfl
  simp only [target, before_append request.noBlank request.noNul,
    before_append other.noBlank other.noNul] at targets
  exact Option.some.inj targets

end GetRequest

/-- What the calls of `zsock_recv` return for a stream. -/
structure Segmentation (stream : List Byte) where
  results : List (List Byte)
  whole : results.flatten = stream
  nonempty : ∀ result ∈ results, result ≠ []
  fits : ∀ result ∈ results, result.length ≤ webAppRxBufSize - 1

/-- A request, cut by the network. -/
structure SplitRequest where
  request : GetRequest
  split : Segmentation request.stream

namespace SplitRequest

variable {files : WebAssetFiles} {snapshot : BridgeTelemetrySnapshot}

/-- What the one call of `zsock_recv` in `handle_client` returns. -/
def received (split : SplitRequest) : List Byte := split.split.results.headD []

/-- What `handle_client` sends. -/
def answer (files : WebAssetFiles) (snapshot : BridgeTelemetrySnapshot) (split : SplitRequest) :
    Option (List (List Byte)) := handleClient files snapshot split.received

/-- The call returns everything up to the blank behind the path. -/
def Complete (split : SplitRequest) : Prop :=
  split.request.requestLine.length ≤ split.received.length

theorem results_eq (split : SplitRequest) :
    ∃ later, split.split.results = split.received :: later := by
  unfold received
  cases results : split.split.results with
  | nil =>
      have whole := split.split.whole
      rw [results] at whole
      have short := congrArg List.length whole
      simp [GetRequest.stream, GetRequest.requestLine] at short
  | cons first later => exact ⟨later, rfl⟩

theorem received_isPrefix (split : SplitRequest) : split.received <+: split.request.stream := by
  obtain ⟨later, results⟩ := split.results_eq
  rw [← split.split.whole, results, List.flatten_cons]
  exact List.prefix_append _ _

theorem received_ne_nil (split : SplitRequest) : split.received ≠ [] := by
  obtain ⟨later, results⟩ := split.results_eq
  exact split.split.nonempty _ (results ▸ List.mem_cons_self)

theorem answer_eq (split : SplitRequest) :
    split.answer files snapshot = some (responseTo files snapshot split.received).buffers :=
  handleClient_eq split.received_ne_nil

theorem answer_of_complete {split : SplitRequest} (complete : split.Complete) :
    split.answer files snapshot = some (resource files snapshot split.request.path).buffers := by
  have whole : split.request.requestLine <+: split.received :=
    List.prefix_of_prefix_length_le (List.prefix_append _ _) split.received_isPrefix complete
  rw [answer_eq, responseTo_whole split.request.noBlank split.request.noNul whole]

theorem answer_of_not_complete (split : SplitRequest) (files : WebAssetFiles)
    (snapshot : BridgeTelemetrySnapshot) (incomplete : ¬ split.Complete) :
    split.answer files snapshot = some badRequest.buffers ∨
      split.answer files snapshot = some methodNotAllowed.buffers := by
  have cut : split.received <+: cString "GET " ++ split.request.path := by
    apply List.prefix_of_prefix_length_le split.received_isPrefix
    · rw [GetRequest.stream, GetRequest.requestLine, List.append_assoc]
      exact List.prefix_append _ _
    · rw [Complete, GetRequest.requestLine, List.length_append] at incomplete
      exact Nat.le_of_lt_succ (Nat.lt_of_not_le incomplete)
  rw [answer_eq]
  cases responseTo_cut split.request.noBlank cut with
  | inl bad => exact Or.inl (congrArg _ (congrArg _ bad))
  | inr method => exact Or.inr (congrArg _ (congrArg _ method))

/-- A cut request is never answered as the whole one is. -/
theorem answered_iff_complete (split : SplitRequest) :
    split.answer files snapshot = some (resource files snapshot split.request.path).buffers ↔
      split.Complete := by
  constructor
  · intro answered
    by_contra incomplete
    cases split.answer_of_not_complete files snapshot incomplete with
    | inl bad => exact resource_ne (by decide) (by decide) (by decide) (answered.symm.trans bad)
    | inr method =>
        exact resource_ne (by decide) (by decide) (by decide) (answered.symm.trans method)
  · exact answer_of_complete

end SplitRequest

/-- The web app answers each of the requests by its path, however it is cut. -/
structure RoutesExactly (files : WebAssetFiles) (snapshot : BridgeTelemetrySnapshot)
    (splits : Set SplitRequest) : Prop where
  answered : ∀ split ∈ splits,
    split.answer files snapshot = some (resource files snapshot split.request.path).buffers
  independent : ∀ split ∈ splits, ∀ other ∈ splits,
    split.request.stream = other.request.stream →
      split.answer files snapshot = other.answer files snapshot
  exact : ∀ split ∈ splits, ∀ response : HttpResponse,
    split.answer files snapshot = some response.buffers → response.status = "200 OK" →
      split.request.path ∈ servedPaths.map cString

/-- It does so if the first read of each returns the path and the blank, and only then. -/
theorem routesExactly_iff (files : WebAssetFiles) (snapshot : BridgeTelemetrySnapshot)
    (splits : Set SplitRequest) :
    RoutesExactly files snapshot splits ↔ ∀ split ∈ splits, split.Complete := by
  constructor
  · intro routes split member
    exact split.answered_iff_complete.mp (routes.answered split member)
  · intro complete
    constructor
    · intro split member
      exact SplitRequest.answer_of_complete (complete split member)
    · intro split member other member' same
      rw [SplitRequest.answer_of_complete (complete split member),
        SplitRequest.answer_of_complete (complete other member'),
        GetRequest.path_eq_of_stream same]
    · intro split member response answer ok
      rw [SplitRequest.answer_of_complete (complete split member)] at answer
      by_contra unserved
      rw [resource_of_unserved unserved] at answer
      have codes := statusCode_eq_of_buffers answer (by decide) (by rw [ok]; decide)
      rw [ok] at codes
      exact absurd codes (by decide)

/-- Files that are as small as files can be. -/
def emptyFiles : WebAssetFiles where
  indexHtml := []
  appJs := []
  styleCss := []
  indexHtml_size := by decide
  appJs_size := by decide
  styleCss_size := by decide

/-- A browser asks for the page, and the network cuts the request behind the path. -/
def cutRequest : SplitRequest where
  request :=
    { path := cString "/"
      rest := cString "HTTP/1.1\r\n\r\n"
      noBlank := by decide
      noNul := by decide
      fits := by decide }
  split :=
    { results := [cString "GET /", cString " HTTP/1.1\r\n\r\n"]
      whole := by decide
      nonempty := by decide
      fits := by decide }

theorem not_routesExactly_cutRequest : ¬ RoutesExactly emptyFiles {} {cutRequest} := by
  intro routes
  have complete := cutRequest.answered_iff_complete.mp (routes.answered cutRequest rfl)
  unfold SplitRequest.Complete at complete
  exact absurd complete (by decide)

end Segmentation

end WebApp

end EspNmeaBridge
