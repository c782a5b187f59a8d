/-
# Replies survive being written and read

The main statement, `Reply.round_trip`, is that the JSON text of a reply is read as that reply,
whatever characters stand in it, so that a client recovers from an answer just what the instance
said.
-/
import EchoBackend.Proofs.Echo.Members
import EchoBackend.Proofs.Server.Turn

namespace EchoBackend

namespace Echo

open Http Json Utf8

/-! ## Replies -/

/-- A member is written as one of an object. -/
theorem Reply.member_writes {reply : Reply} {field : Field} {value : List Char}
    (h : field.Writes reply (encode value)) :
    Member reply (some field) (encode (member field.name value)) := by
  have hname : Named field.name.toList _ := .quoted blanks_nil (.quote _) blanks_nil blanks_nil
  have hmember := Member.own hname h blanks_nil
  rw [member, encode_append, encode_cons, utf8EncodeChar_of_ascii (by decide)]
  simpa using hmember

/-- The JSON text of a reply is an object of its members, in order. -/
theorem Reply.json_object (reply : Reply) : Object reply (Field.all.map some) reply.json := by
  have hport : Field.port.Writes reply (encode reply.port.toNat.repr.toList) := rfl
  have hmembers : Members reply (Field.all.map some)
      (encode ([','].intercalate reply.members)) := by
    simp only [members, List.intercalate, List.intersperse, List.flatten_cons, List.flatten_nil,
      encode_append, List.append_nil]
    exact .more (member_writes (.quote _)) (.more (member_writes hport)
      (.more (member_writes (.quote _)) (.more (member_writes (.quote _))
        (.last (member_writes (.quote _))))))
  rw [json, jsonChars, encode_cons, encode_append]
  exact .members hmembers

/-- **The JSON text of a reply is read as that reply.** -/
theorem Reply.ofJson_json (reply : Reply) : ofJson reply.json = .ok reply := by
  have hread := ofJson_object blanks_nil reply.json_object (by decide) []
  rw [List.nil_append, List.append_nil] at hread
  exact hread

/-- A request that is answered with the status of success has a path, and unless its method keeps
the body back, the body is read as what the instance had to say about the request. -/
theorem Service.ofJson_body {service : Service} {request : Request}
    (hstatus : (service.answer request).response.status = .ok)
    (hhead : request.method ≠ Method.head) (hconnect : request.method ≠ Method.connect) :
    ∃ path, request.uri.path? = some path ∧
      Reply.ofJson (service.answer request).response.body =
        .ok (Reply.describe service.target.identity service.target.port
          (Incoming.extract request.method (pathSegment path) request.headers request.body
            service.limit)) := by
  rcases service.answer_cases request with ⟨-, h⟩ | ⟨-, -, h⟩ | ⟨path, -, hpath, h⟩
  · rw [h] at hstatus
    contradiction
  · rw [h] at hstatus
    contradiction
  · have hbody : (service.answer request).response.body = Reply.json
        (Reply.describe service.target.identity service.target.port
          (Incoming.extract request.method (pathSegment path) request.headers request.body
            service.limit)) := by
      rw [h, response_echo, jsonResponse]
      dsimp only
      rw [if_neg (by simp [hhead, hconnect])]
      rfl
    exact ⟨path, hpath, by rw [hbody, Reply.ofJson_json]⟩

/-- **Replies survive being written and read.**  What is written for a reply is read as that reply,
so different replies have different texts, and a reply that was read from any text survives as
well.  A client that reads the answer to a request, whatever was handled before or together with
it, recovers what the instance said. -/
theorem Reply.round_trip :
    (∀ reply : Reply, ofJson reply.json = .ok reply) ∧
      Function.Injective Reply.json ∧
      (∀ text reply, ofJson text = .ok reply → ofJson reply.json = .ok reply) ∧
      ∀ (service : Service) (history : List (List RequestParts)) (group : List RequestParts)
        (number : Nat) (parts : RequestParts) (request : Request) (response : Response),
        group[number]? = some parts → parts.request = .ok request →
          ((Server.after service history).handle group).1.results[number]? =
            some (.answered response) →
          response.status = .ok → request.method ≠ Method.head →
          request.method ≠ Method.connect →
          ∃ path, request.uri.path? = some path ∧
            ofJson response.body = .ok (describe service.target.identity service.target.port
              (Incoming.extract request.method (pathSegment path) request.headers request.body
                service.limit)) := by
  refine ⟨ofJson_json, ?_, fun _ reply _ => ofJson_json reply, ?_⟩
  · intro x y heq
    have hread := ofJson_json x
    rw [heq, ofJson_json, Except.ok.injEq] at hread
    exact hread.symm
  · intro service history group number parts request response hparts hrequest hanswer hstatus hhead
      hconnect
    rw [Server.results_handle, Server.service_after, List.getElem?_map, hparts, Option.map_some,
      RequestParts.result_of_ok hrequest, Option.some.injEq, Result.answered.injEq] at hanswer
    subst hanswer
    exact Service.ofJson_body hstatus hhead hconnect

/-- The round trip at work: with characters that have escapes, that are escaped by number, and that
take two, three and four bytes; and through a server, after a request that took too long. -/
theorem Reply.round_trip_upload :
    let reply : Reply := ⟨"\"\\/\n\x00\x1f\x7f", 65535, "é\u2028\ufffd𝄞", "", "null"⟩
    let server := Server.after ⟨{}, Target.ofPort 9001, {}⟩ [[heldUpload 60000]]
    ofJson reply.json = .ok reply ∧
      ∃ response, (server.handle [heldUpload 20]).1.results[0]? = some (.answered response) ∧
        ofJson response.body = .ok ⟨"api-a", 9001, "/a b", "u1", "a b"⟩ := by
  intro reply server
  obtain ⟨hread, -, -, hclient⟩ := round_trip
  let service : Service := ⟨{}, Target.ofPort 9001, {}⟩
  let path := Utf8.bytes "/a%20b"
  let request : Request := ⟨Method.post, .origin path (some (Utf8.bytes "x=1")),
    [⟨userIdHeader, Utf8.bytes "u1"⟩], (heldUpload 20).body⟩
  have hrequest : (heldUpload 20).request = .ok request := by decide
  have hresult : (server.handle [heldUpload 20]).1.results[0]? =
      some (.answered (service.answer request).response) := by
    rw [Server.handle_singleton, Server.service_after, RequestParts.result_of_ok hrequest]
    rfl
  obtain ⟨found, hfound, hbody⟩ := hclient service [[heldUpload 60000]] [heldUpload 20] 0
    (heldUpload 20) request _ rfl hrequest hresult (by decide) (by decide) (by decide)
  obtain rfl : path = found := Option.some.inj hfound
  refine ⟨hread reply, _, hresult, hbody.trans (congrArg Except.ok ?_)⟩
  decide

end Echo

end EchoBackend
