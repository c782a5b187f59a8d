/-
# How requests end

Every request ends in exactly one way (`RequestParts.Ends`): refused for the first fault of its
method, its URI and its headers, given up, not found, or echoed.  The main statement,
`Server.run_endings`, says so for all requests of a run, counts the blocks in the sink, and
shows that a step without an echo leaves no trace.
-/
import EchoBackend.Proofs.Server.Isolation
import Mathlib.Data.List.Forall2

namespace EchoBackend

namespace Echo

open Http

/-! ## Refusals -/

/-- What is wrong with one header field. -/
def headerFault? (pair : Bytes × Bytes) : Option HeaderFault :=
  match Header.ofBytes pair.1 pair.2 with
  | .error fault => some fault
  | .ok _ => none

/-- A list of fields is at fault as the first bad field is. -/
theorem ofPairs_eq_error_iff {pairs : List (Bytes × Bytes)} {fault : HeaderFault} :
    Headers.ofPairs pairs = .error fault ↔ pairs.findSome? headerFault? = some fault := by
  induction pairs with
  | nil => simp [Headers.ofPairs]
  | cons pair pairs ih =>
    obtain ⟨name, value⟩ := pair
    rw [Headers.ofPairs, List.findSome?_cons, headerFault?]
    cases Header.ofBytes name value with
    | error other => simp
    | ok header =>
      dsimp only
      rw [← ih]
      cases Headers.ofPairs pairs <;> simp [Except.map]

namespace RequestParts

/-- For which fault something is refused: the method is judged first, then the URI, then the
headers in their order. -/
inductive Refused (parts : RequestParts) : RequestFault → Prop
  | method (hmethod : isToken parts.method = false) : Refused parts .method
  | uri {fault : UriFault} (hmethod : isToken parts.method = true)
      (huri : Uri.ofBytes parts.uri = .error fault) : Refused parts (.uri fault)
  | header {uri : Uri} {fault : HeaderFault} (hmethod : isToken parts.method = true)
      (huri : Uri.ofBytes parts.uri = .ok uri)
      (hheader : parts.headers.findSome? headerFault? = some fault) : Refused parts (.header fault)

variable {parts : RequestParts}

/-- What is refused does not make a request. -/
theorem request_of_refused {fault : RequestFault} (h : parts.Refused fault) :
    parts.request = .error fault := by
  rw [request, Request.ofParts]
  cases h with
  | method hmethod =>
    rw [Method.ofBytes?, dif_neg (by simp [hmethod])]
  | uri hmethod huri =>
    rw [Method.ofBytes?, dif_pos hmethod]
    simp only [huri]
  | header hmethod huri hheader =>
    rw [Method.ofBytes?, dif_pos hmethod]
    simp only [huri, ofPairs_eq_error_iff.mpr hheader]

/-- What does not make a request is refused. -/
theorem refused_of_request {fault : RequestFault} (h : parts.request = .error fault) :
    parts.Refused fault := by
  rw [request, Request.ofParts, Method.ofBytes?] at h
  by_cases hmethod : isToken parts.method = true
  · rw [dif_pos hmethod] at h
    dsimp only at h
    split at h
    case h_1 uriFault huri =>
      injection h with h
      subst h
      exact .uri hmethod huri
    case h_2 uri huri =>
      split at h
      case h_1 headerFault hheaders =>
        injection h with h
        subst h
        exact .header hmethod huri (ofPairs_eq_error_iff.mp hheaders)
      case h_2 => contradiction
  · rw [dif_neg hmethod] at h
    injection h with h
    subst h
    exact .method (Bool.eq_false_of_not_eq_true hmethod)

/-- **Exactly what is refused does not make a request.** -/
theorem request_eq_error_iff {fault : RequestFault} :
    parts.request = .error fault ↔ parts.Refused fault :=
  ⟨refused_of_request, request_of_refused⟩

/-! ## Endings -/

/-- How a request ends: it is given up, or it has no path and is not found, or it is echoed. -/
structure Settled (service : Service) (request : Request) (response : Response) : Prop where
  status : response.status = .requestTimeout ∨ response.status = .notFound ∨
    response.status = .ok
  timedOut : response.status = .requestTimeout ↔ service.deadline ≤ service.duration request
  notFound : response.status = .notFound ↔ response.status ≠ .requestTimeout ∧
    (request.uri = .asterisk ∨ ∃ authority, request.uri = .bareAuthority authority)
  echoed : response.status = .ok ↔ response.status ≠ .requestTimeout ∧
    ∃ path, request.uri.path? = some path
  body_notFound : response.status = .notFound → response.body = []

/-- How the parts of a request end: refused if they make no request, else settled. -/
structure Ends (service : Service) (parts : RequestParts) (result : Result) : Prop where
  refused : ∀ fault, result = .refused fault ↔ parts.Refused fault
  answered : ∀ response, result = .answered response →
    ∃ request, parts.request = .ok request ∧ Settled service request response

/-- The URIs without a path. -/
theorem path?_eq_none_iff {uri : Uri} :
    uri.path? = none ↔ uri = .asterisk ∨ ∃ authority, uri = .bareAuthority authority := by
  cases uri <;> simp [Uri.path?]

/-- The response to a request settles it. -/
theorem settled_answer (service : Service) (request : Request) :
    Settled service request (service.answer request).response := by
  rcases Service.answer_cases service request with
    ⟨late, h⟩ | ⟨inTime, hpath, h⟩ | ⟨path, inTime, hpath, h⟩
  · rw [h]
    constructor <;> simp [Service.timedOut, late]
  · rw [h]
    constructor <;> simp [Service.notFound, ← path?_eq_none_iff, hpath, inTime]
  · rw [h, Service.response_echo]
    constructor <;> simp [Service.jsonResponse, ← path?_eq_none_iff, hpath, inTime]

/-- Everything ends, in one way. -/
theorem ends_result (service : Service) (parts : RequestParts) :
    Ends service parts (parts.result service) := by
  cases h : parts.request with
  | error fault =>
    rw [result_of_error h]
    refine ⟨fun other => ?_, fun response hresponse => by contradiction⟩
    rw [← request_eq_error_iff, h, Result.refused.injEq, Except.error.injEq]
  | ok request =>
    rw [result_of_ok h]
    refine ⟨fun fault => ?_, fun response hresponse => ⟨request, h, ?_⟩⟩
    · rw [← request_eq_error_iff, h]
      simp
    · injection hresponse with hresponse
      rw [← hresponse]
      exact settled_answer service request

end RequestParts

namespace Server

/-! ## Counting blocks -/

/-- Whether a client was answered with success. -/
def isEchoed (result : Result) : Bool := result.status? = some .ok

/-- A turn writes one block for each answer of success. -/
theorem length_blocks_handle (server : Server) (group : List RequestParts) :
    (server.handle group).1.blocks.length = (server.handle group).1.results.countP isEchoed := by
  rw [blocks_handle, results_handle, List.length_filterMap_eq_countP, List.countP_map,
    (List.perm_insertionSort _ group).countP_eq]
  refine List.countP_congr fun parts _ => ?_
  simp only [Function.comp, isEchoed, decide_eq_true_eq]
  exact RequestParts.status?_result_eq_ok_iff.symm

/-- A turn lets the sink grow by its answers of success. -/
theorem length_sink_handle (server : Server) (group : List RequestParts) :
    (server.handle group).2.sink.blocks.length =
      server.sink.blocks.length + (server.handle group).1.results.countP isEchoed := by
  rw [handle_snd, List.length_append, length_blocks_handle]

/-- A run lets the sink grow by its answers of success. -/
theorem length_sink_run (server : Server) (groups : List (List RequestParts)) :
    (server.run groups).2.sink.blocks.length =
      server.sink.blocks.length +
        ((server.run groups).1.flatMap Turn.results).countP isEchoed := by
  induction groups generalizing server with
  | nil => rfl
  | cons group groups ih =>
    simp only [run, List.flatMap_cons, List.countP_append]
    rw [ih, length_sink_handle, Nat.add_assoc]

/-! ## Steps without a trace -/

/-- A step without an answer of success leaves the server as it was. -/
theorem handle_snd_of_quiet {server : Server} {group : List RequestParts}
    (h : ∀ result ∈ (server.handle group).1.results, isEchoed result = false) :
    (server.handle group).2 = server := by
  -- No answer of success, so no block; and the blocks are all that a turn adds.
  have hnil : (server.handle group).1.blocks = [] := by
    rw [← List.length_eq_zero_iff, length_blocks_handle, List.countP_eq_zero]
    intro result hresult
    simp [h result hresult]
  rw [handle_snd, hnil, List.append_nil]

/-- A step without an answer of success could be left out of a run: the turns of all other
steps stay the same, and so does the server in the end. -/
theorem run_without {server : Server} {before later : List (List RequestParts)}
    {group : List RequestParts}
    (h : ∀ result ∈ ((server.run before).2.handle group).1.results, isEchoed result = false) :
    server.run (before ++ later) =
      ((server.run (before ++ group :: later)).1.eraseIdx before.length,
        (server.run (before ++ group :: later)).2) := by
  rw [run_append, run_append]
  simp only [run]
  rw [handle_snd_of_quiet h, List.eraseIdx_append_of_length_le (by rw [length_run]), length_run,
    Nat.sub_self, List.eraseIdx_cons_zero]

/-- The members of a group that make a request. -/
def requestsOf (group : List RequestParts) : List RequestParts :=
  group.filter fun parts => parts.request.toOption.isSome

/-- **What is refused does not reach the service**: the others get the same results without
it, and the server comes to the same. -/
theorem handle_requestsOf (server : Server) (group : List RequestParts) :
    (server.handle (requestsOf group)).1.results =
        (server.handle group).1.results.filter (fun result => result.status?.isSome) ∧
      (server.handle (requestsOf group)).2 = (server.handle group).2 := by
  constructor
  · rw [results_handle, results_handle, List.filter_map, requestsOf]
    congr 2
    funext parts
    simp only [Function.comp, RequestParts.result]
    cases parts.request <;> rfl
  · have hblocks : (server.handle (requestsOf group)).1.blocks =
        (server.handle group).1.blocks := by
      rw [blocks_handle_eq_stamped, blocks_handle_eq_stamped, requestsOf, List.filterMap_filter]
      congr 3
      funext parts
      rw [RequestParts.stamped, RequestParts.block]
      cases parts.request <;> rfl
    rw [handle_snd, handle_snd, hblocks]

/-! ## Runs -/

/-- Every member of every group of a run ends in one way. -/
theorem forall₂_ends_run (server : Server) (groups : List (List RequestParts)) :
    List.Forall₂
      (fun group turn => List.Forall₂ (RequestParts.Ends server.service) group turn.results)
      groups (server.run groups).1 := by
  induction groups generalizing server with
  | nil => exact .nil
  | cons group groups ih =>
    refine .cons ?_ (ih (server.handle group).2)
    show List.Forall₂ _ group (server.handle group).1.results
    rw [results_handle, List.forall₂_map_right_iff, List.forall₂_same]
    exact fun parts _ => RequestParts.ends_result server.service parts

/-- **One ending for each request, one block for each success.**  In every run from the
start: each request ends in exactly one way; there are as many blocks in the sink as there were
answers of success; what is refused does not reach the service; and a step in which nothing
succeeds leaves the server as it was, so that the rest of the run is the same without it. -/
theorem run_endings (service : Service) (groups : List (List RequestParts)) :
    let fresh : Server := { service := service }
    List.Forall₂ (fun group turn => List.Forall₂ (RequestParts.Ends service) group turn.results)
        groups (fresh.run groups).1 ∧
      (fresh.run groups).2.sink.blocks.length =
        ((fresh.run groups).1.flatMap Turn.results).countP isEchoed ∧
      ∀ before group later, groups = before ++ group :: later →
        let server := after service before
        ((server.handle (requestsOf group)).1.results =
            (server.handle group).1.results.filter (fun result => result.status?.isSome) ∧
          (server.handle (requestsOf group)).2 = (server.handle group).2) ∧
        ((∀ result ∈ (server.handle group).1.results, isEchoed result = false) →
          (server.handle group).2 = server ∧
            fresh.run (before ++ later) =
              ((fresh.run groups).1.eraseIdx before.length, (fresh.run groups).2)) := by
  intro fresh
  refine ⟨forall₂_ends_run fresh groups, ?_, ?_⟩
  · rw [length_sink_run]
    exact Nat.zero_add _
  · rintro before group later rfl
    refine ⟨handle_requestsOf _ group, fun hquiet => ⟨handle_snd_of_quiet hquiet, ?_⟩⟩
    exact run_without hquiet

/-- A run at work: a step of an upload that times out, something that is no request and a request
without a path lies between two uploads that succeed. -/
theorem run_endings_uploads :
    let service : Service := ⟨{}, Target.ofPort 9001, {}⟩
    let quiet := [heldUpload 60000, { heldUpload 0 with method := [] },
      { heldUpload 0 with uri := Utf8.bytes "*" }]
    let groups := [[heldUpload 20], quiet, [heldUpload 100]]
    let server := after service [[heldUpload 20]]
    (∀ result ∈ (server.handle quiet).1.results, isEchoed result = false) ∧
      (server.handle quiet).2 = server ∧
      (run { service := service } groups).2.sink.blocks.length =
        ((run { service := service } groups).1.flatMap Turn.results).countP isEchoed := by
  intro service quiet groups server
  obtain ⟨-, hcount, hsteps⟩ := run_endings service groups
  have hquiet : ∀ result ∈ (server.handle quiet).1.results, isEchoed result = false := by
    rw [results_handle, service_after]
    decide
  exact ⟨hquiet, ((hsteps [[heldUpload 20]] quiet [[heldUpload 100]] rfl).2 hquiet).1, hcount⟩

end Server

end Echo

end EchoBackend
