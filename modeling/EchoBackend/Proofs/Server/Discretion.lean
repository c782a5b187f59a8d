/-
# What a client cannot see

Two requests are `Alike` if they agree in the method, the path, the user and the identifier
that they bring along.  The main statement, `Server.handle_alike`, says that alike requests get
the same response whatever else they differ in, and that without a payload they cannot be told
apart at all.
-/
import EchoBackend.Proofs.Server.Turn

namespace EchoBackend

namespace Echo

open Http

/-- Two requests that agree in all that a response depends on. -/
structure Alike (first second : Request) : Prop where
  method : first.method = second.method
  path : first.uri.path? = second.uri.path?
  user : first.headers.first? userIdHeader = second.headers.first? userIdHeader
  id : first.headers.first? requestIdHeader = second.headers.first? requestIdHeader

namespace Alike

variable {first second : Request}

/-- Alike requests name the same user. -/
theorem userId_eq (h : Alike first second) : userId first.headers = userId second.headers := by
  rw [userId, userId, h.user]

/-- Alike requests have the same identifier, where one new identifier counts as any other. -/
theorem requestId_eq (h : Alike first second) :
    requestId first.headers = requestId second.headers := by
  rw [requestId, requestId, h.id]

/-- Alike requests are finished with the same response, whatever was read of their bodies. -/
theorem response_finish (service : Service) (h : Alike first second)
    (reading other : Except BodyFault Bytes) :
    (service.finish first reading).response = (service.finish second other).response := by
  cases hpath : first.uri.path? with
  | none =>
    rw [Service.finish_of_no_path hpath, Service.finish_of_no_path (h.path ▸ hpath),
      Service.notFound, Service.notFound, h.requestId_eq]
  | some path =>
    rw [Service.finish_of_path hpath, Service.finish_of_path (h.path ▸ hpath),
      Service.response_echo, Service.response_echo, h.userId_eq, Service.jsonResponse,
      Service.jsonResponse, h.requestId_eq, h.method]

/-- Alike requests that are handled in time get the same response. -/
theorem response_answer {service : Service} (h : Alike first second)
    (hfirst : service.duration first < service.deadline)
    (hsecond : service.duration second < service.deadline) :
    (service.answer first).response = (service.answer second).response := by
  rw [Service.answer_of_inTime hfirst, Service.answer_of_inTime hsecond]
  exact h.response_finish service _ _

/-- Alike requests without a payload leave the same block, whatever was read of their
bodies. -/
theorem block_finish (service : Service) (h : Alike first second)
    (hpost : first.method ≠ Method.post) (reading other : Except BodyFault Bytes) :
    (service.finish first reading).block = (service.finish second other).block := by
  cases hpath : first.uri.path? with
  | none => rw [Service.finish_of_no_path hpath, Service.finish_of_no_path (h.path ▸ hpath)]
  | some path =>
    rw [Service.finish_of_path hpath, Service.finish_of_path (h.path ▸ hpath),
      Service.block_echo_of_not_post service path reading hpost,
      Service.block_echo_of_not_post service path other (h.method ▸ hpost), h.userId_eq, h.method]

/-- Alike requests without a payload are answered alike in everything. -/
theorem answer_eq (service : Service) (h : Alike first second)
    (hpost : first.method ≠ Method.post) : service.answer first = service.answer second := by
  have hother : second.method ≠ Method.post := h.method ▸ hpost
  have hfinish : ∀ reading, service.finish first reading = service.finish second reading := by
    intro reading
    calc service.finish first reading
      _ = ⟨(service.finish first reading).response, (service.finish first reading).block⟩ := rfl
      _ = ⟨(service.finish second reading).response, (service.finish second reading).block⟩ := by
        rw [h.response_finish service reading reading,
          h.block_finish service hpost reading reading]
      _ = service.finish second reading := rfl
  -- Nothing is waited for on either side, so not even the deadline can tell them apart.
  rw [Service.answer, Service.answer, Service.duration_of_not_post hpost,
    Service.duration_of_not_post hother, Service.awaited_of_not_post hpost,
    Service.awaited_of_not_post hother, hfinish]

end Alike

/-- **A client does not see what is in a body.**  Alike requests to servers of one service get
the same response unless one of them times out.  If they are no `POST`, the whole turns are the
same, blocks and timeouts included. -/
theorem Server.handle_alike {one other : Server} (hservice : one.service = other.service)
    {parts others : RequestParts} {first second : Request} (hfirst : parts.request = .ok first)
    (hsecond : others.request = .ok second) (halike : Alike first second) :
    ((∀ result ∈ (one.handle [parts]).1.results ++ (other.handle [others]).1.results,
        result.status? ≠ some .requestTimeout) →
      (one.handle [parts]).1.results = (other.handle [others]).1.results) ∧
    (first.method ≠ Method.post → (one.handle [parts]).1 = (other.handle [others]).1) := by
  rw [handle_singleton, handle_singleton, hservice, RequestParts.result_of_ok hfirst,
    RequestParts.result_of_ok hsecond]
  constructor
  · intro htime
    have inTime : ∀ request ∈ [first, second],
        other.service.duration request < other.service.deadline := by
      intro request hrequest
      refine Service.inTime_of_status fun hlate => ?_
      refine htime (.answered (other.service.answer request).response) ?_ (congrArg some hlate)
      simp only [List.mem_cons, List.not_mem_nil, or_false] at hrequest
      rcases hrequest with rfl | rfl <;> simp
    rw [halike.response_answer (inTime _ (by simp)) (inTime _ (by simp))]
  · intro hpost
    rw [RequestParts.block_of_ok hfirst, RequestParts.block_of_ok hsecond,
      halike.answer_eq other.service hpost]

/-- Discretion at work: in a request whose method is spelled `post`, neither a body that is
held up for a minute nor one that fails leaves a trace. -/
theorem Server.handle_alike_lowercase :
    let service : Service := ⟨{}, Target.ofPort 9001, {}⟩
    let method : Method := ⟨Utf8.bytes "post", by decide⟩
    let path := Utf8.bytes "/a%20b"
    let user : Header := ⟨userIdHeader, Utf8.bytes "u1"⟩
    let held := { heldUpload 60000 with method := method.bytes }
    let failing : RequestParts :=
      { method := method.bytes, uri := path
        headers := [(Utf8.bytes "accept", []), (userIdHeader, user.value)]
        body := [.failure "cut off"] }
    held.request = .ok ⟨method, .origin path (some (Utf8.bytes "x=1")), [user], held.body⟩ ∧
      failing.request =
        .ok ⟨method, .origin path none, [⟨Utf8.bytes "accept", []⟩, user], failing.body⟩ ∧
      method ≠ Method.post ∧
      (Server.handle ⟨service, ⟨["earlier"]⟩⟩ [held]).1 =
        (Server.handle ⟨service, {}⟩ [failing]).1 := by
  intro service method path user held failing
  have hheld : held.request =
      .ok ⟨method, .origin path (some (Utf8.bytes "x=1")), [user], held.body⟩ := by decide
  have hfailing : failing.request =
      .ok ⟨method, .origin path none, [⟨Utf8.bytes "accept", []⟩, user], failing.body⟩ := by
    decide
  have hpost : method ≠ Method.post := by decide
  have hservice : (Server.mk service ⟨["earlier"]⟩).service = (Server.mk service {}).service := rfl
  have halike := Server.handle_alike hservice hheld hfailing ⟨rfl, rfl, by decide, by decide⟩
  exact ⟨hheld, hfailing, hpost, halike.2 hpost⟩

end Echo

end EchoBackend
