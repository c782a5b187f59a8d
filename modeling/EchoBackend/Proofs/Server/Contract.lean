/-
# The echo contract

What an instance promises for a request with a path, written down without the clock, the body
reader or the state of the server: a JSON text, the response that carries it and a block, both
texts spelled out.  The main statement, `Server.handle_eq_promised`, says that a server keeps this
promise after any history, unless the request times out.
-/
import EchoBackend.Proofs.Echo.RoundTrip
import EchoBackend.Proofs.Text.Decoding

namespace EchoBackend

namespace Echo

open Http

/-! ## The promise -/

/-- A text in quotes, as it stands in JSON. -/
def inQuotes (text : String) : String := String.ofList (Json.quote text.toList)

/-- The JSON text for a path: five members, in this order. -/
def promisedText (port : UInt16) (path : Bytes) (headers : Headers) : String :=
  "\x7b\"server\":" ++ inQuotes (Identity.ofPort port).label ++
    ",\"port\":" ++ port.toNat.repr ++
    ",\"endpoint\":" ++ inQuotes ("/" ++ pathSegment path) ++
    ",\"x_user_id\":" ++ inQuotes ((userId headers).getD "NOT_SET") ++
    ",\"path\":" ++ inQuotes (pathSegment path) ++ "\x7d"

/-- The reply that a client reads from this text. -/
def promisedReply (port : UInt16) (path : Bytes) (headers : Headers) : Reply where
  server := (Identity.ofPort port).label
  port := port
  endpoint := "/" ++ pathSegment path
  userId := (userId headers).getD "NOT_SET"
  path := pathSegment path

/-- The response that carries a text: `HEAD` gets all of its headers but no body, and
`CONNECT` gets neither the body nor its length. -/
def promisedResponse (method : Method) (headers : Headers) (text : Bytes) : Response where
  status := .ok
  contentType := some "application/json"
  contentLength := if method = Method.connect then none else some text.length
  requestId := some (requestId headers)
  body := if method = Method.head ∨ method = Method.connect then [] else text

/-- The payload of a request; only a `POST` has one. -/
def promisedPayload (settings : Settings) (method : Method) (body : Body) : Option String :=
  if method = Method.post then body.payload settings.bodyLimit.toNat else none

/-- The block for a path, line by line. -/
def promisedBlock (settings : Settings) (port : UInt16) (method : Method) (path : Bytes)
    (headers : Headers) (body : Body) : String :=
  "\n============================================================\n" ++
    ("Server: " ++ (Identity.ofPort port).label ++ " (listening on port " ++ port.toNat.repr ++
      ")\n") ++
    ("Method: " ++ method.text ++ "\n") ++
    ("Endpoint: /" ++ pathSegment path ++ "\n") ++
    ("X-User-Id: " ++ (userId headers).getD "NOT_SET" ++ "\n") ++
    ((promisedPayload settings method body).elim "" fun payload => "Payload: " ++ payload ++ "\n") ++
    "============================================================\n"

/-- The record of a request for a path. -/
def promisedRecord (settings : Settings) (port : UInt16) (method : Method) (path : Bytes)
    (headers : Headers) (body : Body) : RequestRecord where
  identity := Identity.ofPort port
  port := port
  method := method
  endpoint := "/" ++ pathSegment path
  userId := (userId headers).getD "NOT_SET"
  payload := promisedPayload settings method body

/-! ## Texts -/

/-- The characters of a JSON text, member by member. -/
theorem toList_members (server port endpoint user path : String) :
    '\x7b' :: ([','].intercalate
        [Reply.member "server" (Json.quote server.toList), Reply.member "port" port.toList,
          Reply.member "endpoint" (Json.quote endpoint.toList),
          Reply.member "x_user_id" (Json.quote user.toList),
          Reply.member "path" (Json.quote path.toList)] ++ ['\x7d']) =
      ("\x7b\"server\":" ++ inQuotes server ++ ",\"port\":" ++ port ++
        ",\"endpoint\":" ++ inQuotes endpoint ++ ",\"x_user_id\":" ++ inQuotes user ++
        ",\"path\":" ++ inQuotes path ++ "\x7d").toList := by
  have hserver : Json.quote "server".toList = "\"server\"".toList := by decide
  have hport : Json.quote "port".toList = "\"port\"".toList := by decide
  have hendpoint : Json.quote "endpoint".toList = "\"endpoint\"".toList := by decide
  have huser : Json.quote "x_user_id".toList = "\"x_user_id\"".toList := by decide
  have hpath : Json.quote "path".toList = "\"path\"".toList := by decide
  simp only [Reply.member, hserver, hport, hendpoint, huser, hpath, inQuotes,
    String.toList_append, String.toList_ofList, List.intercalate, List.intersperse,
    List.flatten_cons, List.flatten_nil]
  simp

/-- **The JSON text of the reply**, member by member. -/
theorem json_promisedReply (port : UInt16) (path : Bytes) (headers : Headers) :
    (promisedReply port path headers).json = Utf8.bytes (promisedText port path headers) :=
  congrArg Utf8.encode (toList_members _ _ _ _ _)

/-- A payload is never empty. -/
theorem payloadOf_ne_empty (reading : Except BodyFault Bytes) : payloadOf reading ≠ some "" := by
  rcases reading with fault | bytes
  · exact fun h => absurd (Option.some.inj h) (by decide)
  · cases bytes with
    | nil => exact fun h => by contradiction
    | cons byte bytes =>
      rw [payloadOf]
      · cases htext : Utf8.text? (byte :: bytes) with
        | none => exact fun h => absurd (Option.some.inj h) (by decide)
        | some text =>
          rintro ⟨⟩
          exact absurd (Utf8.text?_eq_some_empty_iff.mp htext) (List.cons_ne_nil _ _)
      · exact fun h => absurd h (List.cons_ne_nil _ _)

/-- A promised payload is never empty. -/
theorem promisedPayload_ne_empty (settings : Settings) (method : Method) (body : Body) :
    promisedPayload settings method body ≠ some "" := by
  unfold promisedPayload
  split
  · exact payloadOf_ne_empty _
  · exact fun h => by contradiction

/-- Lines in a frame, the last of them there or not. -/
theorem framed_lines (server method endpoint user : String) (payload : Option String) :
    framed ([server, method, endpoint, user] ++ payload.toList) =
      "\n============================================================\n" ++ (server ++ "\n") ++
        (method ++ "\n") ++ (endpoint ++ "\n") ++ (user ++ "\n") ++ payload.elim "" (· ++ "\n") ++
        "============================================================\n" := by
  have hseparator : separator.toList =
      "============================================================".toList := by decide
  rw [← String.toList_inj]
  cases payload <;> simp [framed, hseparator]

/-- The payload line of a record whose payload is not empty. -/
theorem payloadLines_of_ne_empty {record : RequestRecord} (h : record.payload ≠ some "") :
    record.payloadLines = (record.payload.map ("Payload: " ++ ·)).toList := by
  rw [RequestRecord.payloadLines]
  cases hpayload : record.payload with
  | none => rfl
  | some payload =>
    have hne : payload.isEmpty = false := by
      rw [hpayload] at h
      simpa using h
    simp [hne]

/-- **The block of the record**, line by line. -/
theorem block_promisedRecord (settings : Settings) (port : UInt16) (method : Method)
    (path : Bytes) (headers : Headers) (body : Body) :
    (promisedRecord settings port method path headers body).block =
      promisedBlock settings port method path headers body := by
  have hline := @payloadLines_of_ne_empty (promisedRecord settings port method path headers body)
    (promisedPayload_ne_empty settings method body)
  have hendpoint : "Endpoint: " ++ ("/" ++ pathSegment path) = "Endpoint: /" ++ pathSegment path := by
    rw [← String.append_assoc]
    rfl
  have hserver (text : String) : text ++ ")" ++ "\n" = text ++ ")\n" := by
    rw [String.append_assoc]
    rfl
  unfold RequestRecord.block
  rw [hline]
  refine (framed_lines _ _ _ _ _).trans ?_
  dsimp only [promisedRecord, promisedBlock]
  rw [hserver, hendpoint]
  cases promisedPayload settings method body <;> rfl

/-! ## The promise is kept -/

/-- An echo responds as promised. -/
theorem response_echo_eq_promised (settings : Settings) (port : UInt16) (timer : Timer)
    (request : Request) (path : Bytes) (reading : Except BodyFault Bytes) :
    ((Service.mk settings (Target.ofPort port) timer).echo request path reading).response =
      promisedResponse request.method request.headers
        (Utf8.bytes (promisedText port path request.headers)) := by
  rw [Service.response_echo, Service.jsonResponse, promisedResponse, ← json_promisedReply]
  simp only [Target.port_ofPort, Target.identity_ofPort, beq_iff_eq, Bool.or_eq_true]
  rfl

/-- An echo reports what was promised. -/
theorem block_echo_eq_promised (settings : Settings) (port : UInt16) (timer : Timer)
    (request : Request) {path : Bytes} (hpath : request.uri.path? = some path) :
    let service : Service := ⟨settings, Target.ofPort port, timer⟩
    (service.echo request path ((Service.awaited request).read service.limit)).block =
      some (promisedRecord settings port request.method path request.headers
        request.body).block := by
  intro service
  have hpayload := @Service.payload_awaited service request path hpath
  simp only [Service.echo, Service.record, Incoming.ofReading, promisedRecord, hpayload]
  rfl

/-- A request with a path that does not time out comes to what was promised. -/
theorem answer_eq_promised (settings : Settings) (port : UInt16) (timer : Timer)
    (request : Request) {path : Bytes} (hpath : request.uri.path? = some path)
    (htime : ((Service.mk settings (Target.ofPort port) timer).answer request).response.status ≠
      .requestTimeout) :
    (Service.mk settings (Target.ofPort port) timer).answer request =
      { response := promisedResponse request.method request.headers
          (Utf8.bytes (promisedText port path request.headers))
        block := some (promisedRecord settings port request.method path request.headers
          request.body).block } := by
  rw [Service.answer_of_inTime (Service.inTime_of_status htime), Service.finish_of_path hpath,
    ← response_echo_eq_promised settings port timer request path,
    ← block_echo_eq_promised _ _ timer _ hpath]

/-- The parts of a well-formed request make that request. -/
theorem RequestParts.request_of_parts {parts : RequestParts} {method : Method} {uri : Uri}
    {headers : Headers} (hmethod : Method.ofBytes? parts.method = some method)
    (huri : Uri.ofBytes parts.uri = .ok uri)
    (hheaders : Headers.ofPairs parts.headers = .ok headers) :
    parts.request = .ok ⟨method, uri, headers, parts.body⟩ := by
  simp only [RequestParts.request, Request.ofParts, hmethod, huri, hheaders]

/-- **A server keeps its promise after any history.**  A well-formed request with a path that
does not time out is answered with exactly the promised text, which a client reads as the promised
reply, and exactly the promised block is added to the sink. -/
theorem Server.handle_eq_promised (settings : Settings) (port : UInt16) (timer : Timer)
    (history : List (List RequestParts)) (parts : RequestParts) {method : Method} {uri : Uri}
    {headers : Headers} {path : Bytes} (hmethod : Method.ofBytes? parts.method = some method)
    (huri : Uri.ofBytes parts.uri = .ok uri) (hpath : uri.path? = some path)
    (hheaders : Headers.ofPairs parts.headers = .ok headers)
    (htime : ∀ result ∈
      ((Server.after ⟨settings, Target.ofPort port, timer⟩ history).handle [parts]).1.results,
        result.status? ≠ some .requestTimeout) :
    let server := Server.after ⟨settings, Target.ofPort port, timer⟩ history
    let text := Utf8.bytes (promisedText port path headers)
    let block := promisedBlock settings port method path headers parts.body
    (server.handle [parts]).1 =
        ⟨[.answered (promisedResponse method headers text)], [block]⟩ ∧
      Reply.ofJson text = .ok (promisedReply port path headers) ∧
      (server.handle [parts]).2.sink.blocks = server.sink.blocks ++ [block] := by
  intro server text block
  have hrequest := RequestParts.request_of_parts hmethod huri hheaders
  have hservice : server.service = ⟨settings, Target.ofPort port, timer⟩ :=
    service_after _ history
  rw [handle_singleton, service_after, RequestParts.result_of_ok hrequest] at htime
  have hstatus : ((Service.mk settings (Target.ofPort port) timer).answer
      ⟨method, uri, headers, parts.body⟩).response.status ≠ .requestTimeout := fun hlate =>
    htime _ (List.mem_singleton_self _) (congrArg some hlate)
  have hanswer := answer_eq_promised settings port timer ⟨method, uri, headers, parts.body⟩ hpath
    hstatus
  rw [block_promisedRecord] at hanswer
  have hturn : (server.handle [parts]).1 =
      ⟨[.answered (promisedResponse method headers text)], [block]⟩ := by
    rw [handle_singleton, hservice, RequestParts.result_of_ok hrequest,
      RequestParts.block_of_ok hrequest, hanswer]
    rfl
  refine ⟨hturn, ?_, by rw [handle_snd, hturn]⟩
  rw [← Reply.ofJson_json (promisedReply port path headers), json_promisedReply]

/-- The contract at work, to the letter: earlier steps that time out or are refused do not
matter. -/
theorem Server.handle_eq_promised_upload :
    let history := [[heldUpload 60000], [{ heldUpload 0 with method := [] }, heldUpload 60000]]
    let server := Server.after ⟨{}, Target.ofPort 9001, {}⟩ history
    let text := Utf8.bytes ("\x7b\"server\":\"api-a\",\"port\":9001,\"endpoint\":\"/a b\"," ++
      "\"x_user_id\":\"u1\",\"path\":\"a b\"\x7d")
    let block := "\n============================================================\n" ++
      "Server: api-a (listening on port 9001)\nMethod: POST\nEndpoint: /a b\nX-User-Id: u1\n" ++
      "Payload: hi\n============================================================\n"
    (∀ result ∈ (server.handle [heldUpload 20]).1.results,
        result.status? ≠ some .requestTimeout) ∧
      (server.handle [heldUpload 20]).1 =
        ⟨[.answered
          { status := .ok, contentType := some "application/json", contentLength := some 78
            requestId := some .generated, body := text }], [block]⟩ ∧
      Reply.ofJson text = .ok ⟨"api-a", 9001, "/a b", "u1", "a b"⟩ ∧
      (server.handle [heldUpload 20]).2.sink.blocks = server.sink.blocks ++ [block] := by
  intro history server text block
  have hmethod : Method.ofBytes? (heldUpload 20).method = some Method.post := by decide
  have huri : Uri.ofBytes (heldUpload 20).uri =
      .ok (.origin (Utf8.bytes "/a%20b") (some (Utf8.bytes "x=1"))) := by
    decide
  have hheaders : Headers.ofPairs (heldUpload 20).headers =
      .ok [⟨userIdHeader, Utf8.bytes "u1"⟩] := by
    decide
  have htime : ∀ result ∈ (server.handle [heldUpload 20]).1.results,
      result.status? ≠ some .requestTimeout := by
    rw [handle_singleton, service_after]
    decide
  have hpromised := handle_eq_promised {} 9001 {} history _ hmethod huri rfl hheaders htime
  have htext : promisedText 9001 (Utf8.bytes "/a%20b") [⟨userIdHeader, Utf8.bytes "u1"⟩] =
      "\x7b\"server\":\"api-a\",\"port\":9001,\"endpoint\":\"/a b\"," ++
        "\"x_user_id\":\"u1\",\"path\":\"a b\"\x7d" := by
    decide +kernel
  have hblock : promisedBlock {} 9001 Method.post (Utf8.bytes "/a%20b")
      [⟨userIdHeader, Utf8.bytes "u1"⟩] (heldUpload 20).body = block := by
    decide +kernel
  have hreply : promisedReply 9001 (Utf8.bytes "/a%20b") [⟨userIdHeader, Utf8.bytes "u1"⟩] =
      ⟨"api-a", 9001, "/a b", "u1", "a b"⟩ := by
    decide +kernel
  rw [htext, hblock, hreply] at hpromised
  exact ⟨htime, hpromised⟩

end Echo

end EchoBackend
