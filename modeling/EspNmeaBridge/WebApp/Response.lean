import EspNmeaBridge.WebApp

/-!
# Responses

A response as the browser is to see it: status line, headers and body.  What the web
app hands to `send_all` for a request is the header of one response, and then its body.
-/

namespace EspNmeaBridge

open Library

/-- A response to a request. -/
structure HttpResponse where
  status : String
  contentType : String
  body : List Byte
  deriving DecidableEq, Repr

namespace HttpResponse

/-- Status line and headers. -/
def headerText (response : HttpResponse) : List Char :=
  WebApp.joined ["HTTP/1.1 ", response.status, "\r\nContent-Type: ", response.contentType,
    "\r\nContent-Length: "] ++ Nat.toDigits 10 response.body.length ++
  "\r\nConnection: close\r\nCache-Control: no-store\r\n\r\n".toList

def header (response : HttpResponse) : List Byte := cBytes response.headerText

/-- The bytes of the response. -/
def bytes (response : HttpResponse) : List Byte := response.header ++ response.body

/-- The buffers for `send_all`. -/
def buffers (response : HttpResponse) : List (List Byte) := [response.header, response.body]

/-- The header fits its buffer. -/
structure Fits (response : HttpResponse) : Prop where
  status : response.status.toList.length ≤ 22
  contentType : response.contentType.toList.length ≤ 25
  body : response.body.length < 2 ^ 32

theorem length_headerText (response : HttpResponse) :
    response.headerText.length = 91 + response.status.toList.length +
      response.contentType.toList.length + (Nat.toDigits 10 response.body.length).length := by
  simp [headerText, WebApp.joined]
  omega

theorem length_header_pos (response : HttpResponse) : 0 < response.header.length := by
  rw [header, cBytes, List.length_map, length_headerText]
  omega

theorem Fits.length_headerText_lt {response : HttpResponse} (fits : response.Fits) :
    response.headerText.length < WebApp.headerBufSize := by
  have digits : (Nat.toDigits 10 response.body.length).length ≤ 10 := by
    rw [Nat.length_toDigits_le_iff (by decide) (by decide)]
    exact Nat.lt_trans fits.body (by decide)
  have status := fits.status
  have contentType := fits.contentType
  rw [length_headerText, WebApp.headerBufSize]
  omega

end HttpResponse

namespace WebApp

theorem formatted_header (response : HttpResponse) :
    formatted headerFormat [.string response.status.toList, .string response.contentType.toList,
      .size response.body.length] = some response.headerText := by
  simp [headerFormat, HttpResponse.headerText, joined, formatted_other, formatted, FormatArg.text]

theorem length_cBytes (text : List Char) : (cBytes text).length = text.length :=
  List.length_map _

/-- A header that fits is sent as a whole. -/
theorem writeResponseHeader_eq {response : HttpResponse} (fits : response.Fits) :
    writeResponseHeader response.status response.contentType response.body.length =
      some [response.header] := by
  have printed := snprintf_of_fits (formatted_header response) fits.length_headerText_lt
  have length := length_cBytes response.headerText
  have positive : response.headerText.length > 0 := by
    rw [HttpResponse.length_headerText]
    omega
  have stored : response.headerText.length ≤ (cBytes response.headerText ++ [0]).length := by
    rw [List.length_append, length]
    exact Nat.le_add_right _ _
  rw [writeResponseHeader, printed]
  simp only [if_pos positive, if_pos stored]
  rw [← length, List.take_left]
  rfl

/-- A body without NULs is sent as a whole, whatever follows its NUL in memory. -/
theorem writeTextResponse_eq (response : HttpResponse) (fits : response.Fits)
    {memory : List Byte} (body : untilNul memory = response.body) :
    writeTextResponse response.status response.contentType memory = some response.buffers := by
  rw [writeTextResponse, strlen, body, writeResponseHeader_eq fits]
  rfl

/-- The response with the contents of a file. -/
def assetResponse (asset : WebAsset) : HttpResponse where
  status := "200 OK"
  contentType := asset.contentType
  body := asset.contents

theorem fits_assetResponse {files : WebAssetFiles} {asset : WebAsset}
    (member : asset ∈ assets files) : (assetResponse asset).Fits := by
  simp only [assets, List.mem_cons, List.not_mem_nil, or_false] at member
  rcases member with rfl | rfl | rfl | rfl
  · exact ⟨by simp [assetResponse], by simp [assetResponse], files.indexHtml_size⟩
  · exact ⟨by simp [assetResponse], by simp [assetResponse], files.indexHtml_size⟩
  · exact ⟨by simp [assetResponse], by simp [assetResponse], files.appJs_size⟩
  · exact ⟨by simp [assetResponse], by simp [assetResponse], files.styleCss_size⟩

theorem writeAssetResponse_eq {files : WebAssetFiles} {asset : WebAsset}
    (member : asset ∈ assets files) :
    writeAssetResponse asset = some (assetResponse asset).buffers := by
  have header := writeResponseHeader_eq (fits_assetResponse member)
  simp only [assetResponse] at header
  rw [writeAssetResponse, header]
  rfl

/-- The answer to another method than `GET`. -/
def methodNotAllowed : HttpResponse where
  status := "405 Method Not Allowed"
  contentType := "text/plain; charset=utf-8"
  body := cString "method not allowed\n"

/-- The answer to a request without a blank after the path. -/
def badRequest : HttpResponse where
  status := "400 Bad Request"
  contentType := "text/plain; charset=utf-8"
  body := cString "bad request\n"

/-- The answer to an unknown path. -/
def notFound : HttpResponse where
  status := "404 Not Found"
  contentType := "text/plain; charset=utf-8"
  body := cString "not found\n"

theorem write_methodNotAllowed :
    writeTextResponse "405 Method Not Allowed" "text/plain; charset=utf-8"
      (cString "method not allowed\n") = some methodNotAllowed.buffers :=
  writeTextResponse_eq methodNotAllowed ⟨by decide, by decide, by decide⟩
    (untilNul_of_visible (by decide))

theorem write_badRequest :
    writeTextResponse "400 Bad Request" "text/plain; charset=utf-8"
      (cString "bad request\n") = some badRequest.buffers :=
  writeTextResponse_eq badRequest ⟨by decide, by decide, by decide⟩
    (untilNul_of_visible (by decide))

theorem write_notFound :
    writeTextResponse "404 Not Found" "text/plain; charset=utf-8"
      (cString "not found\n") = some notFound.buffers :=
  writeTextResponse_eq notFound ⟨by decide, by decide, by decide⟩
    (untilNul_of_visible (by decide))

end WebApp

end EspNmeaBridge
