/-
# Identifiers of requests

An answer carries the identifier that the request brought along, or else a new one, and the
identifier leaves no other trace: two requests that agree when the identifiers are left out are
answered alike in all but the identifier (`Service.answer_without`).  The main statement is
`Server.handle_traced`.
-/
import EchoBackend.Proofs.Http.Fields
import EchoBackend.Proofs.Http.Identifiers
import EchoBackend.Proofs.Server.Isolation

namespace EchoBackend

namespace Http

/-! ## Requests without the headers of a name -/

/-- A request from which all headers of a name are left out. -/
def Request.without (request : Request) (name : HeaderName) : Request :=
  { request with headers := request.headers.filter fun header => header.name != name }

/-- Leaving out the headers of a name leaves those of any other name. -/
theorem Request.first?_without (request : Request) {name other : HeaderName} (h : other ≠ name) :
    (request.without name).headers.first? other = request.headers.first? other := by
  have hother (header : Header) : decide ((header.name != name) = true ∧
      (header.name == other) = true) = (header.name == other) := by
    by_cases heq : header.name = other
    · rw [heq, bne_iff_ne.mpr h, beq_self_eq_true]
      rfl
    · rw [beq_false_of_ne heq]
      simp
  rw [without, Headers.first?, Headers.first?, List.find?_filter]
  simp only [hother]

end Http

namespace Echo

open Http

/-! ## Parts of requests -/

namespace RequestParts

/-- The identifiers that a request brings along, their name being in any letter case. -/
def identifiers (parts : RequestParts) : List Bytes :=
  (parts.headers.filter fun pair => pair.1.map lowerByte == requestIdHeader).map Prod.snd

/-- A request from whose parts its identifiers are left out. -/
def anonymous (parts : RequestParts) : RequestParts :=
  { parts with headers := parts.headers.filter fun pair =>
      pair.1.map lowerByte != requestIdHeader }

variable {parts others : RequestParts} {request other : Request}

/-- The identifiers of a request are the values of its headers of their name. -/
theorem all_requestIdHeader (h : parts.request = .ok request) :
    request.headers.all requestIdHeader = parts.identifiers := by
  obtain ⟨-, -, hheaders, -⟩ := Request.ofParts_eq_ok_iff.mp h
  rw [(Headers.ofPairs_eq_ok_iff.mp hheaders).2, Headers.all, List.filter_map, List.map_map]
  rfl

/-- The identifier of an answer is the first of those of the request, or else a new one. -/
theorem value_requestId (h : parts.request = .ok request) (fresh : Uuid4) :
    (requestId request.headers).value fresh = parts.identifiers.head?.getD fresh.bytes := by
  rw [requestId, Headers.first?_eq_head?_all, all_requestIdHeader h]
  cases parts.identifiers.head? with
  | none => rw [Option.getD_none, RequestId.value]
  | some id => rw [Option.getD_some, RequestId.value]

/-- What makes a request makes one without its identifiers as well. -/
theorem request_anonymous (h : parts.request = .ok request) :
    parts.anonymous.request = .ok (request.without requestIdHeader) := by
  obtain ⟨hmethod, huri, hheaders, hbody⟩ := Request.ofParts_eq_ok_iff.mp h
  obtain ⟨hpairs, heq⟩ := Headers.ofPairs_eq_ok_iff.mp hheaders
  have hrest : Headers.ofPairs parts.anonymous.headers =
      .ok (request.without requestIdHeader).headers := by
    refine Headers.ofPairs_eq_ok_iff.mpr ⟨fun pair hpair => ?_, ?_⟩
    · exact hpairs pair (List.mem_of_mem_filter hpair)
    · rw [Request.without, heq, List.filter_map]
      rfl
  exact Request.ofParts_eq_ok_iff.mpr ⟨hmethod, huri, hrest, hbody⟩

/-- Requests whose parts agree but for the identifiers agree but for the identifiers. -/
theorem without_eq_of_anonymous (h : parts.request = .ok request)
    (hother : others.request = .ok other) (hsame : others.anonymous = parts.anonymous) :
    other.without requestIdHeader = request.without requestIdHeader := by
  have hrequest := request_anonymous hother
  rw [hsame, request_anonymous h] at hrequest
  exact (Except.ok.inj hrequest).symm

end RequestParts

/-! ## Answers -/

variable {request other : Request}

/-- An outcome without the identifier under which it is answered. -/
def Outcome.anonymous (outcome : Outcome) : Outcome :=
  { outcome with response := { outcome.response with requestId := none } }

/-- Outcomes that agree but for the identifier differ in nothing else. -/
theorem Outcome.eq_of_anonymous {outcome later : Outcome}
    (h : later.anonymous = outcome.anonymous) :
    later = { outcome with response :=
      { outcome.response with requestId := later.response.requestId } } := by
  have hresponse := congrArg (fun found => { found.response with
    requestId := later.response.requestId }) h
  have hblock := congrArg Outcome.block h
  exact congrArg₂ Outcome.mk hresponse hblock

namespace Service

/-- Requests that agree but for their identifiers take the same time. -/
theorem completion_without (service : Service)
    (h : other.without requestIdHeader = request.without requestIdHeader) :
    service.completion other = service.completion request := by
  show service.completion (other.without requestIdHeader) =
    service.completion (request.without requestIdHeader)
  rw [h]

/-- A request is finished alike without its identifiers. -/
theorem finish_without (service : Service) (request : Request)
    (reading : Except BodyFault Bytes) :
    (service.finish (request.without requestIdHeader) reading).anonymous =
      (service.finish request reading).anonymous := by
  let bare := request.without requestIdHeader
  have hincoming (segment : String) :
      Incoming.ofReading bare.method segment bare.headers reading =
        Incoming.ofReading request.method segment request.headers reading := by
    rw [Incoming.ofReading, Incoming.ofReading, userId, userId,
      request.first?_without (by decide : userIdHeader ≠ requestIdHeader)]
    rfl
  cases hpath : bare.uri.path? with
  | none =>
    rw [finish_of_no_path hpath, @finish_of_no_path service request _ hpath]
    rfl
  | some path =>
    rw [finish_of_path hpath, @finish_of_path service request _ _ hpath, echo, echo, hincoming]
    rfl

/-- **Requests that agree but for their identifiers are answered alike but for the identifier.** -/
theorem answer_without (service : Service)
    (h : other.without requestIdHeader = request.without requestIdHeader) :
    (service.answer other).anonymous = (service.answer request).anonymous := by
  have halone (request : Request) :
      (service.answer (request.without requestIdHeader)).anonymous =
        (service.answer request).anonymous := by
    rw [answer, answer]
    -- What is waited for is the same, so either both requests are given up or none is.
    show (if service.deadline ≤ service.duration request then _ else _ : Outcome).anonymous = _
    split
    case isTrue => rfl
    case isFalse => exact service.finish_without request _
  rw [← halone other, h, halone]

/-- A request that is given up has no identifier, any other has its own. -/
theorem requestId_answer (service : Service) (request : Request) :
    (service.answer request).response.requestId =
      if (service.answer request).response.status = .requestTimeout then none
      else some (requestId request.headers) := by
  rcases service.answer_cases request with ⟨-, h⟩ | ⟨-, -, h⟩ | ⟨path, -, -, h⟩ <;> rw [h] <;> rfl

end Service

/-! ## Turns -/

/-- Parts that agree but for the identifiers leave the same block at the same moment. -/
theorem RequestParts.stamped_anonymous (service : Service) {parts others : RequestParts}
    (h : parts.request = .ok request) (hother : others.request = .ok other)
    (hsame : others.anonymous = parts.anonymous) :
    others.stamped service = parts.stamped service := by
  have hrequest := without_eq_of_anonymous h hother hsame
  have hblock : (service.answer other).block = (service.answer request).block :=
    (congrArg Outcome.block (service.answer_without hrequest) :)
  have hcompletion : others.completion service = parts.completion service := by
    rw [completion, completion, h, hother]
    exact service.completion_without hrequest
  rw [stamped, stamped, block_of_ok h, block_of_ok hother, hblock, hcompletion]

/-- **Identifiers are passed on, and leave no other trace.**  After any history, a request in a
group is answered with exactly one identifier, unless it is given up: the first one it brings along
under any spelling of the name, byte for byte, or else a new one, which is written as a UUID of
version 4.  If it brought along any others, or none, then nothing else would change: no other
answer, no block, and nothing but the identifier in its own answer. -/
theorem Server.handle_traced (service : Service) (history : List (List RequestParts))
    {group : List RequestParts} {number : Nat} {parts : RequestParts}
    (hparts : group[number]? = some parts) (hrequest : parts.request = .ok request)
    (fresh : Uuid4) :
    let server := after service history
    let turn := (server.handle group).1
    Uuid4.isWritten fresh.bytes = true ∧
    ∃ response, turn.results[number]? = some (.answered response) ∧
      response.identifiers fresh = (if response.status = .requestTimeout then []
        else [parts.identifiers.head?.getD fresh.bytes]) ∧
      ∀ others other, others.request = .ok other → others.anonymous = parts.anonymous →
        ∃ id, server.handle (group.set number others) =
          (⟨turn.results.set number (.answered { response with requestId := id }), turn.blocks⟩,
            (server.handle group).2) := by
  intro server turn
  have hservice : server.service = service := service_after service history
  refine ⟨fresh.isWritten_bytes, (service.answer request).response, ?_, ?_, ?_⟩
  · rw [results_handle, hservice, List.getElem?_map, hparts, Option.map_some,
      RequestParts.result_of_ok hrequest]
  · rw [Response.identifiers_eq, Service.requestId_answer]
    split
    case isTrue => rfl
    case isFalse =>
      rw [Option.map_some, Option.toList_some, RequestParts.value_requestId hrequest]
  · intro others other hother hsame
    have hanswer := Outcome.eq_of_anonymous
      (service.answer_without (RequestParts.without_eq_of_anonymous hrequest hother hsame))
    -- The same block at the same moment: the rest of the group does not learn of the identifier.
    have hstamped := RequestParts.stamped_anonymous server.service hrequest hother hsame
    refine ⟨(service.answer other).response.requestId, ?_⟩
    rw [handle_set hparts hstamped, hservice, RequestParts.result_of_ok hother, hanswer]

/-- Identifiers at work, in a group: one that is no text is passed on with the answer to a request
without a path, whose second identifier does not count; an upload that is given up has none; and
without its identifiers the request changes nothing else. -/
theorem Server.handle_traced_group :
    let service : Service := ⟨{}, Target.ofPort 9001, {}⟩
    let named : RequestParts :=
      { uri := Utf8.bytes "*"
        headers := [(Utf8.bytes "X-Request-ID", [0xFF]), (requestIdHeader, Utf8.bytes "b")] }
    let group := [heldUpload 60000, named]
    let server := after service [group]
    let turn := (server.handle group).1
    (∃ response, turn.results[1]? = some (.answered response) ∧
        response.identifiers ⟨0, 0⟩ = [[0xFF]]) ∧
      (∃ response, turn.results[0]? = some (.answered response) ∧
        response.identifiers ⟨0, 0⟩ = []) ∧
      (server.handle [heldUpload 60000, { named with headers := [] }]).1.blocks = turn.blocks := by
  intro service named group server turn
  let upload : Request := ⟨Method.post, .origin (Utf8.bytes "/a%20b") (some (Utf8.bytes "x=1")),
    [⟨userIdHeader, Utf8.bytes "u1"⟩], (heldUpload 60000).body⟩
  have hnamed : named.request = .ok ⟨Method.get, .asterisk,
    [⟨requestIdHeader, [0xFF]⟩, ⟨requestIdHeader, Utf8.bytes "b"⟩], []⟩ := by decide
  have hupload : (heldUpload 60000).request = .ok upload := by decide
  have hbare : { named with headers := [] : RequestParts }.request =
    .ok ⟨Method.get, .asterisk, [], []⟩ := by decide
  have hstatuses : turn.results.map Result.status? = [some .requestTimeout, some .notFound] := by
    rw [results_handle, service_after]
    decide
  obtain ⟨-, found, hfound, hids, hsame⟩ :=
    handle_traced service [group] (rfl : group[1]? = some named) hnamed ⟨0, 0⟩
  obtain ⟨-, late, hlate, hnone, -⟩ :=
    handle_traced service [group] (rfl : group[0]? = some (heldUpload 60000)) hupload ⟨0, 0⟩
  obtain ⟨id, hturn⟩ := hsame { named with headers := [] } _ hbare (by decide)
  have hstatus (number : Nat) {response : Response} {status : Status}
      (hresult : turn.results[number]? = some (.answered response))
      (hexpected : [some Status.requestTimeout, some .notFound][number]? = some (some status)) :
      response.status = status := by
    rw [← hstatuses, List.getElem?_map, hresult] at hexpected
    exact Option.some.inj (Option.some.inj hexpected)
  refine ⟨⟨found, hfound, ?_⟩, ⟨late, hlate, ?_⟩, ?_⟩
  · rw [hids, hstatus 1 hfound rfl, if_neg (by decide)]
    rfl
  · rw [hnone, hstatus 0 hlate rfl, if_pos rfl]
  · exact congrArg (fun result => result.1.blocks) hturn

end Echo

end EchoBackend
