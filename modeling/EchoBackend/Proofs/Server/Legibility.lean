/-
# What clients can write into the diagnostic output

Path, user and payload come from the client and are reported as they are.  The main statement,
`Server.handle_legible_iff`, says when the block of a request can still be read by its labels: unless
the decoded path has a line feed, or a later line of the payload looks like a line of the frame.
-/
import EchoBackend.Proofs.Block.Legibility
import EchoBackend.Proofs.Echo.Users
import EchoBackend.Proofs.Http.Fields
import EchoBackend.Proofs.Server.Contract
import EchoBackend.Proofs.Startup.Picking
import EchoBackend.Proofs.Text.Controls
import EchoBackend.Proofs.Text.Decoding

namespace EchoBackend

/-- A line feed is no part of a name. -/
theorem Identity.newline_not_mem_label (port : UInt16) :
    '\n' ∉ (Identity.ofPort port).label.toList :=
  fun h => absurd (mem_label h) (by decide)

namespace Echo

open Http

/-! ## What is reported of a request -/

/-- The user of a request has no line feed: no value of a header has one. -/
theorem newline_not_mem_userId {headers : Headers} (h : ∀ header ∈ headers, isValue header.value) :
    '\n' ∉ ((userId headers).getD "NOT_SET").toList := by
  cases huser : userId headers with
  | none => decide
  | some text => exact not_mem_userId (by rw [Utf8.IsLow]; decide) (by decide) h huser

/-- The headers of a request are well-formed. -/
theorem RequestParts.isValue_of_request {parts : RequestParts} {request : Request}
    (h : parts.request = .ok request) :
    ∀ header ∈ request.headers, isValue header.value = true := by
  obtain ⟨-, -, hheaders, -⟩ := Request.ofParts_eq_ok_iff.mp h
  exact Headers.isValue_of_ofPairs hheaders

/-- When the block that was promised for a request is legible. -/
theorem legible_promised_iff (settings : Settings) (port : UInt16) (path : Bytes)
    {parts : RequestParts} {request : Request} (hrequest : parts.request = .ok request) :
    let record := promisedRecord settings port request.method path request.headers request.body
    record.Legible record.block ↔
      '\n' ∉ record.endpoint.toList ∧ ∀ line ∈ record.laterLines, ¬ Imitates line := by
  intro record
  have huser := newline_not_mem_userId (RequestParts.isValue_of_request hrequest)
  have hpayload : record.payload ≠ some "" := promisedPayload_ne_empty settings _ request.body
  exact RequestRecord.legible_block_iff (Identity.newline_not_mem_label port) huser hpayload

/-- A request with a path that does not time out leaves the block that was promised for it. -/
theorem Server.blocks_handle_eq_promised (settings : Settings) (port : UInt16) (timer : Timer)
    (history : List (List RequestParts)) {parts : RequestParts} {request : Request} {path : Bytes}
    (hrequest : parts.request = .ok request) (hpath : request.uri.path? = some path)
    (htime : ∀ result ∈
      ((Server.after ⟨settings, Target.ofPort port, timer⟩ history).handle [parts]).1.results,
        result.status? ≠ some .requestTimeout) :
    ((Server.after ⟨settings, Target.ofPort port, timer⟩ history).handle [parts]).1.blocks =
      [(promisedRecord settings port request.method path request.headers request.body).block] := by
  rw [handle_singleton, service_after, RequestParts.result_of_ok hrequest] at htime
  have hstatus := fun hlate => htime _ (List.mem_singleton_self _) (congrArg some hlate)
  rw [handle_singleton, service_after, RequestParts.block_of_ok hrequest,
    answer_eq_promised settings port timer request hpath hstatus]
  rfl

/-! ## Legibility of what is reported -/

/-- An upload of two lines. -/
def letter : RequestParts where
  method := Utf8.bytes "POST"
  uri := Utf8.bytes "/a%0Db"
  body := [.data (Utf8.bytes "one\ntwo")]

/-- A request that writes a server line by its path. -/
def forgedPath : RequestParts where
  uri := Utf8.bytes "/%0AServer:%20api-z"

/-- A request that writes a server line by its payload. -/
def forgedPayload : RequestParts where
  method := Utf8.bytes "POST"
  uri := Utf8.bytes "/x"
  body := [.data (Utf8.bytes "x\nServer: api-z")]

/-- **When the block of a request is legible.**  After any history, a request with a path that does
not time out leaves one block.  It shows two separators, the server, the method, the endpoint and
the user of the request once each, and a payload line exactly if there is a payload, if and only if
the decoded path has no line feed and no later line of the payload looks like a line of the
frame.  The method, the user and the length of anything do not matter. -/
theorem Server.handle_legible_iff (settings : Settings) (port : UInt16) (timer : Timer)
    (history : List (List RequestParts)) (parts : RequestParts) {request : Request} {path : Bytes}
    (hrequest : parts.request = .ok request) (hpath : request.uri.path? = some path)
    (htime : ∀ result ∈
      ((Server.after ⟨settings, Target.ofPort port, timer⟩ history).handle [parts]).1.results,
        result.status? ≠ some .requestTimeout) :
    let record := promisedRecord settings port request.method path request.headers request.body
    ∃ block,
      ((Server.after ⟨settings, Target.ofPort port, timer⟩ history).handle [parts]).1.blocks = [block] ∧
        (record.Legible block ↔
          '\n' ∉ record.endpoint.toList ∧ ∀ line ∈ record.laterLines, ¬ Imitates line) := by
  intro record
  exact ⟨record.block, blocks_handle_eq_promised settings port timer history hrequest hpath htime,
    legible_promised_iff settings port path hrequest⟩

/-- A payload of several lines and a path with a carriage return do no harm. -/
theorem Server.handle_legible_iff_letter :
    let server := Server.after ⟨{}, Target.ofPort 9001, {}⟩ [[heldUpload 60000]]
    let request : Request := ⟨Method.post, .origin (Utf8.bytes "/a%0Db") none, [],
      letter.body⟩
    let record := promisedRecord {} 9001 Method.post (Utf8.bytes "/a%0Db") [] letter.body
    (∀ result ∈ (server.handle [letter]).1.results, result.status? ≠ some .requestTimeout) ∧
      letter.request = .ok request ∧
      ∃ block, (server.handle [letter]).1.blocks = [block] ∧ record.Legible block := by
  intro server request record
  have hrequest : letter.request = .ok request := by decide
  have htime : ∀ result ∈ (server.handle [letter]).1.results,
      result.status? ≠ some .requestTimeout := by
    rw [handle_singleton, service_after]
    decide
  obtain ⟨block, hblock, hlegible⟩ :=
    handle_legible_iff {} 9001 {} [[heldUpload 60000]] letter hrequest rfl htime
  refine ⟨htime, hrequest, block, hblock, hlegible.mpr ⟨?_, ?_⟩⟩
  · decide
  · decide

/-- **A client can write a second server line**, by an escape in its path or by its payload. -/
theorem Server.handle_forged :
    let server := Server.after ⟨{}, Target.ofPort 9001, {}⟩ []
    ∀ parts ∈ [forgedPath, forgedPayload], ∃ request path block,
      parts.request = .ok request ∧ request.uri.path? = some path ∧
        (server.handle [parts]).1.results.map Result.status? = [some .ok] ∧
        (server.handle [parts]).1.blocks = [block] ∧
        (labelled "Server: " (lines block)).length = 2 ∧
        ¬ (promisedRecord {} 9001 request.method path request.headers
          request.body).Legible block := by
  intro server parts hparts
  have hforged : ∃ request path, parts.request = .ok request ∧ request.uri.path? = some path ∧
      (parts.result ⟨{}, Target.ofPort 9001, {}⟩).status? = some .ok ∧
      (labelled "Server: " (lines (promisedRecord {} 9001 request.method path request.headers
        request.body).block)).length = 2 := by
    rcases List.mem_cons.mp hparts with rfl | hparts
    · exact ⟨⟨Method.get, .origin forgedPath.uri none, [], []⟩, forgedPath.uri,
        by decide, rfl, by decide, by decide +kernel⟩
    · obtain rfl := List.mem_singleton.mp hparts
      exact ⟨⟨Method.post, .origin forgedPayload.uri none, [], forgedPayload.body⟩,
        forgedPayload.uri, by decide, rfl, by decide, by decide +kernel⟩
  obtain ⟨request, path, hrequest, hpath, hstatus, htwo⟩ := hforged
  have hresults : (server.handle [parts]).1.results.map Result.status? = [some .ok] := by
    rw [handle_singleton, service_after, List.map_singleton, hstatus]
  have htime : ∀ result ∈ (server.handle [parts]).1.results,
      result.status? ≠ some .requestTimeout := by
    intro result hresult hlate
    have hmem := List.mem_map_of_mem (f := Result.status?) hresult
    rw [hresults, List.mem_singleton, hlate] at hmem
    contradiction
  refine ⟨request, path, _, hrequest, hpath, hresults,
    blocks_handle_eq_promised {} 9001 {} [] hrequest hpath htime, htwo, fun hlegible => ?_⟩
  rw [hlegible.server, List.length_singleton] at htwo
  contradiction

end Echo

end EchoBackend
