/-
# Turns of a server

A turn of a server is put together from what each of its requests comes to on its own:
`RequestParts.result` for the client, `RequestParts.block` for the sink.  The state of the
server enters neither (`Server.results_handle`, `Server.blocks_handle`), and all that a turn
changes is that its blocks are added to the sink (`Server.handle_snd`).
-/
import EchoBackend.Echo.Server
import EchoBackend.Proofs.Service.Answer
import EchoBackend.Proofs.Timeline.Landing
import Mathlib.Data.List.Basic

namespace EchoBackend

namespace Echo

open Http

/-- The status of an answer; a refusal has none. -/
def Result.status? : Result → Option Status
  | refused _ => none
  | answered response => some response.status

namespace RequestParts

/-! ## One request -/

/-- What the client of a request learns. -/
def result (service : Service) (parts : RequestParts) : Result :=
  match parts.request with
  | .error fault => .refused fault
  | .ok request => .answered (service.answer request).response

/-- The block that a request leaves in the sink, if any. -/
def block (service : Service) (parts : RequestParts) : Option String :=
  match parts.request with
  | .error _ => none
  | .ok request => (service.answer request).block

/-- The moment at which a request is done with; what is refused never gets under way. -/
def completion (service : Service) (parts : RequestParts) : Nat :=
  match parts.request with
  | .error _ => 0
  | .ok request => service.completion request

variable {service : Service} {parts : RequestParts}

/-- What is no request is refused. -/
theorem result_of_error {fault : RequestFault} (h : parts.request = .error fault) :
    parts.result service = .refused fault := by
  rw [result, h]

/-- A request is answered. -/
theorem result_of_ok {request : Request} (h : parts.request = .ok request) :
    parts.result service = .answered (service.answer request).response := by
  rw [result, h]

/-- What is no request leaves no block. -/
theorem block_of_error {fault : RequestFault} (h : parts.request = .error fault) :
    parts.block service = none := by
  rw [block, h]

/-- A request leaves the block of its answer. -/
theorem block_of_ok {request : Request} (h : parts.request = .ok request) :
    parts.block service = (service.answer request).block := by
  rw [block, h]

/-- The block of a request is that of the answer to it, if it is a request. -/
theorem block_eq_bind : parts.block service =
    parts.request.toOption.bind fun request => (service.answer request).block := by
  rw [block]
  cases parts.request <;> rfl

/-- A block is written exactly with the status of success. -/
theorem status?_result_eq_ok_iff :
    (parts.result service).status? = some .ok ↔ (parts.block service).isSome := by
  cases h : parts.request with
  | error fault =>
    rw [result_of_error h, block_of_error h]
    simp [Result.status?]
  | ok request =>
    rw [result_of_ok h, block_of_ok h, ← Service.status_answer_eq_ok_iff]
    exact Option.some_inj

/-- A request that does not end in success writes no block. -/
theorem block_eq_none (h : (parts.result service).status? ≠ some .ok) :
    parts.block service = none := by
  rw [← Option.not_isSome_iff_eq_none, ← status?_result_eq_ok_iff]
  exact h

/-- A request is done with when its answer is. -/
theorem completion_of_toOption {request : Request} (h : parts.request.toOption = some request) :
    parts.completion service = service.completion request := by
  rw [completion]
  cases hrequest : parts.request with
  | error fault =>
    rw [hrequest] at h
    contradiction
  | ok other =>
    rw [hrequest] at h
    injection h with h
    rw [h]

end RequestParts

/-- The results of a group are those of its members. -/
theorem Result.merge_eq_map (service : Service) (group : List RequestParts) :
    Result.merge (group.map RequestParts.request)
        (((group.map RequestParts.request).filterMap Except.toOption).map fun request =>
          (service.answer request).response) =
      group.map (RequestParts.result service) := by
  induction group with
  | nil => rfl
  | cons parts group ih =>
    rw [List.map_cons, List.map_cons, RequestParts.result]
    cases parts.request with
    | error fault =>
      simp only [List.filterMap_cons, Except.toOption, Result.merge, List.cons.injEq, true_and]
      exact ih
    | ok request =>
      simp only [List.filterMap_cons, Except.toOption, List.map_cons, Result.merge,
        List.cons.injEq, true_and]
      exact ih

/-- Blocks are written one after the other. -/
theorem Sink.foldl_emit (sink : Sink) (blocks : List String) :
    blocks.foldl Sink.emit sink = ⟨sink.blocks ++ blocks⟩ := by
  induction blocks generalizing sink with
  | nil => rw [List.append_nil]; rfl
  | cons block blocks ih => rw [List.foldl_cons, ih, Sink.blocks_emit, List.append_assoc]; rfl

namespace Server

/-! ## One turn -/

/-- Each request of a group gets its own result. -/
theorem results_handle (server : Server) (group : List RequestParts) :
    (server.handle group).1.results = group.map (RequestParts.result server.service) := by
  simp only [handle]
  rw [Timeline.handle_responses]
  exact Result.merge_eq_map server.service group

/-- The blocks of a group are those of its members, in the order in which they are done
with. -/
theorem blocks_handle (server : Server) (group : List RequestParts) :
    (server.handle group).1.blocks =
      (group.insertionSort fun first second =>
        first.completion server.service ≤ second.completion server.service).filterMap
          (RequestParts.block server.service) := by
  -- What is refused may be sorted along with the requests, wherever it comes to stand.
  have hsort := Sorting.filterMap_insertionSort
    (p := RequestParts.completion server.service) (q := server.service.completion)
    (fun _ _ => RequestParts.completion_of_toOption) group
  have hblock : RequestParts.block server.service = fun parts =>
      parts.request.toOption.bind fun request => (server.service.answer request).block := by
    funext parts
    exact RequestParts.block_eq_bind
  rw [hblock, ← List.filterMap_filterMap, hsort]
  simp only [handle]
  rw [Timeline.handle_blocks, List.filterMap_map]
  rfl

/-- A turn adds its blocks to the sink and changes nothing else. -/
theorem handle_snd (server : Server) (group : List RequestParts) :
    (server.handle group).2 =
      { server with sink := ⟨server.sink.blocks ++ (server.handle group).1.blocks⟩ } := by
  simp only [handle]
  rw [Sink.foldl_emit]

/-- A turn keeps the service. -/
@[simp] theorem service_handle (server : Server) (group : List RequestParts) :
    (server.handle group).2.service = server.service := rfl

/-! ## Many turns -/

/-- A run keeps the service. -/
@[simp] theorem service_run (server : Server) (groups : List (List RequestParts)) :
    (server.run groups).2.service = server.service := by
  induction groups generalizing server with
  | nil => rfl
  | cons group groups ih =>
    simp only [run]
    rw [ih, service_handle]

/-- A run through two lists of groups is a run through the second after a run through the
first. -/
theorem run_append (server : Server) (before after : List (List RequestParts)) :
    server.run (before ++ after) =
      ((server.run before).1 ++ ((server.run before).2.run after).1,
        ((server.run before).2.run after).2) := by
  induction before generalizing server with
  | nil => rfl
  | cons group before ih => simp only [List.cons_append, run, ih]

/-- There is one turn for each group. -/
@[simp] theorem length_run (server : Server) (groups : List (List RequestParts)) :
    (server.run groups).1.length = groups.length := by
  induction groups generalizing server with
  | nil => rfl
  | cons group groups ih => simp only [run, List.length_cons, ih]

/-! ## One request on its own -/

/-- The server that starts with an empty sink and has handled some groups. -/
def after (service : Service) (history : List (List RequestParts)) : Server :=
  (run { service := service } history).2

/-- What a request brings about on its own on a server that has handled nothing yet. -/
def alone (service : Service) (parts : RequestParts) : Turn :=
  (handle { service := service } [parts]).1

/-- What a server has handled does not change its service. -/
@[simp] theorem service_after (service : Service) (history : List (List RequestParts)) :
    (after service history).service = service := service_run _ history

/-- **A single request comes to the same on every server of one service.** -/
theorem handle_singleton (server : Server) (parts : RequestParts) :
    (server.handle [parts]).1 =
      ⟨[parts.result server.service], (parts.block server.service).toList⟩ := by
  have hresults := results_handle server [parts]
  have hblocks := blocks_handle server [parts]
  rw [List.insertionSort_cons, List.insertionSort_nil, List.orderedInsert_nil,
    List.filterMap_eq_flatMap_toList, List.flatMap_singleton] at hblocks
  rw [List.map_singleton] at hresults
  rw [← hresults, ← hblocks]

end Server

/-- An upload whose body is held up on its way, with an escape in its path and a header name in
mixed case. -/
def heldUpload (milliseconds : Nat) : RequestParts where
  method := Utf8.bytes "POST"
  uri := Utf8.bytes "/a%20b?x=1"
  headers := [(Utf8.bytes "X-User-Id", Utf8.bytes "u1")]
  body := [.data (Utf8.bytes "h"), .delay milliseconds, .data (Utf8.bytes "i")]

end Echo

end EchoBackend
