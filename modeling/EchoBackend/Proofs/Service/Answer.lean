/-
# The answer to one request

What `Service.answer` comes to, case by case: a request is given up, or it has no path and is
not found, or it is echoed.  The body is looked at only where a payload is wanted.
-/
import EchoBackend.Echo.Service

namespace EchoBackend

namespace Echo

open Http

namespace Service

variable {service : Service} {request : Request}

/-! ## The awaited part of a body -/

/-- The whole body of a `POST` with a path is waited for. -/
theorem awaited_of_post {path : Bytes} (hpath : request.uri.path? = some path)
    (hpost : request.method = Method.post) : awaited request = request.body := by
  simp [awaited, Request.readsBody, hpath, hpost]

/-- Of the body of any other request nothing is waited for. -/
theorem awaited_of_not_post (h : request.method ≠ Method.post) : awaited request = [] := by
  simp [awaited, Request.readsBody, h]

/-- Of the body of a request without a path nothing is waited for either. -/
theorem awaited_of_no_path (h : request.uri.path? = none) : awaited request = [] := by
  simp [awaited, h]

/-- A request whose body is not waited for takes no time. -/
theorem duration_of_not_post (h : request.method ≠ Method.post) :
    service.duration request = 0 := by
  rw [duration, awaited_of_not_post h]
  rfl

/-! ## The cases of an answer -/

/-- A request that takes too long is given up. -/
theorem answer_of_late (h : service.deadline ≤ service.duration request) :
    service.answer request = { response := timedOut } := by
  rw [answer, if_pos h]

/-- A request that is handled in time is finished with what was read. -/
theorem answer_of_inTime (h : service.duration request < service.deadline) :
    service.answer request = service.finish request ((awaited request).read service.limit) := by
  rw [answer, if_neg (by omega)]

/-- A request that was not given up was handled in time. -/
theorem inTime_of_status (h : (service.answer request).response.status ≠ .requestTimeout) :
    service.duration request < service.deadline := by
  refine Nat.lt_of_not_le fun late => h ?_
  rw [answer_of_late late]
  rfl

/-- A request without a path is not found. -/
theorem finish_of_no_path {reading : Except BodyFault Bytes} (h : request.uri.path? = none) :
    service.finish request reading = { response := notFound request.headers } := by
  rw [finish, h]

/-- A request with a path is echoed. -/
theorem finish_of_path {path : Bytes} {reading : Except BodyFault Bytes}
    (h : request.uri.path? = some path) :
    service.finish request reading = service.echo request path reading := by
  rw [finish, h]

/-- **The three cases of an answer.** -/
theorem answer_cases (service : Service) (request : Request) :
    (service.deadline ≤ service.duration request ∧
        service.answer request = { response := timedOut }) ∨
      (service.duration request < service.deadline ∧ request.uri.path? = none ∧
        service.answer request = { response := notFound request.headers }) ∨
      ∃ path, service.duration request < service.deadline ∧ request.uri.path? = some path ∧
        service.answer request =
          service.echo request path ((awaited request).read service.limit) := by
  rcases Nat.lt_or_ge (service.duration request) service.deadline with inTime | late
  · right
    have hfinish := answer_of_inTime inTime
    cases hpath : request.uri.path? with
    | none => exact Or.inl ⟨inTime, rfl, by rw [hfinish, finish_of_no_path hpath]⟩
    | some path => exact Or.inr ⟨path, inTime, rfl, by rw [hfinish, finish_of_path hpath]⟩
  · exact Or.inl ⟨late, answer_of_late late⟩

/-- **A block is written exactly with the status of success.** -/
theorem status_answer_eq_ok_iff (service : Service) (request : Request) :
    (service.answer request).response.status = .ok ↔ (service.answer request).block.isSome := by
  rcases answer_cases service request with ⟨-, h⟩ | ⟨-, -, h⟩ | ⟨path, -, -, h⟩
  · rw [h]
    decide
  · rw [h]
    simp [notFound]
  · rw [h]
    simp [echo, jsonResponse]

/-- The response of an echo does not depend on what was read. -/
theorem response_echo (service : Service) (request : Request) (path : Bytes)
    (reading : Except BodyFault Bytes) :
    (service.echo request path reading).response =
      jsonResponse request.method request.headers
        (Reply.json ⟨service.target.identity.label, service.target.port,
          endpointFor (pathSegment path), (userId request.headers).getD noUser,
          pathSegment path⟩) := rfl

/-- The block of an echo that has no payload does not depend on what was read either. -/
theorem block_echo_of_not_post (service : Service) (path : Bytes)
    (reading : Except BodyFault Bytes) (h : request.method ≠ Method.post) :
    (service.echo request path reading).block =
      some (RequestRecord.block ⟨service.target.identity, service.target.port, request.method,
        endpointFor (pathSegment path), (userId request.headers).getD noUser, none⟩) := by
  simp only [echo, record, Incoming.ofReading, beq_eq_false_iff_ne.mpr h]
  rfl

/-- The payload of an echo is what was read of the body of a `POST`. -/
theorem payload_awaited {path : Bytes} (hpath : request.uri.path? = some path) :
    (if request.method == Method.post then payloadOf ((awaited request).read service.limit)
      else none) =
      if request.method = Method.post then request.body.payload service.limit else none := by
  by_cases hpost : request.method = Method.post
  · rw [if_pos hpost, awaited_of_post hpath hpost, hpost]
    rfl
  · rw [if_neg hpost, if_neg (by simpa using hpost)]

end Service

end Echo

end EchoBackend
