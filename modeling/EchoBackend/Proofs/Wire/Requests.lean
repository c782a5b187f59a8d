/-
# Requests on a connection

What a connection makes of requests that are written to it one after the other, if the library reads
them as they are framed: what the service makes of the same requests without a connection, in their
order (`Line.Runs.routed`).  `Awaits` says what is still to be read and which requests are still to be
served; `Awaits.feed` is the case of one part.
-/
import EchoBackend.Proofs.Http.Fields
import EchoBackend.Proofs.Http.Reading
import EchoBackend.Proofs.Server.Turn
import EchoBackend.Proofs.Wire.Runs
import EchoBackend.Wire.Written

namespace EchoBackend

open Http Echo

namespace Wire

variable {service : Service} {written : WrittenRequest} {request : Request} {served : Served}
  {stage next : Stage} {part piece : Part} {left rest : List Part} {payload bytes : Bytes}
  {requests todo done : List WrittenRequest} {now : Nat} {stopping told : Bool}

/-! ## Agreement -/

/-- A request that was served came to what the written one comes to without a connection. -/
structure Agrees (service : Service) (written : WrittenRequest) (served : Served) : Prop where
  results : (Server.alone service written.parts).results =
    [.answered (served.outcome service).response]
  blocks : (Server.alone service written.parts).blocks = (served.outcome service).block.toList

/-- A well-formed request without a connection comes to the answer of the service. -/
theorem agrees_of_outcome (h : written.WellFormed request)
    (houtcome : served.outcome service = service.answer request) :
    Agrees service written served := by
  have halone : Server.alone service written.parts =
      ⟨[.answered (service.answer request).response], (service.answer request).block.toList⟩ := by
    rw [Server.alone, Server.handle_singleton, RequestParts.result_of_ok h.parts,
      RequestParts.block_of_ok h.parts]
  exact ⟨by rw [halone, houtcome], by rw [halone, houtcome]⟩

/-- A well-formed request waits for nothing, so that it is handled in time if there is any. -/
theorem outcome_of_wellFormed (h : written.WellFormed request) (hdeadline : service.deadline ≠ 0) :
    (Served.finished { request with body := [] }
      (if request.uri.path?.isSome && request.readsBody then
        Body.read service.limit [.data written.body.payload] else .ok [])).outcome service =
      service.answer request := by
  obtain ⟨-, -, -, hbody⟩ := Request.ofParts_eq_ok_iff.mp h.parts
  have hbody : request.body = [.data written.body.payload] := hbody.symm
  have hduration : service.duration request = 0 := by
    rw [Service.duration, Service.awaited, hbody]
    split
    · rw [Body.wait, Body.waitOnto]
      split <;> rfl
    · rfl
  rw [Service.answer_of_inTime (by omega), Service.awaited, hbody]
  split <;> rfl

/-! ## What is still to be read -/

/-- Whether a part belongs to a body. -/
def Part.isBody : Part → Bool
  | data _ => true
  | last => true
  | _ => false

/-- What is still to be read on a connection, and which requests are still to be served on it.  When
an answer is given before its body was read, the rest of the body is passed over. -/
inductive Awaits (service : Service) : Stage → List Part → List WrittenRequest → Prop
  | idle {stage : Stage} {rest : List Part} {todo : List WrittenRequest}
    (hstage : stage = .waiting ∨ stage = .arriving) (hrest : ∀ part ∈ rest, part.isBody = true) :
    Awaits service stage (rest ++ todo.flatMap WrittenRequest.spelled) todo
  | handling {exchange : Exchange} {written : WrittenRequest} {request : Request}
    {payload : Bytes} {todo : List WrittenRequest} (hwritten : written.WellFormed request)
    (hrequest : exchange.request = { request with body := [] })
    (hreads : (request.uri.path?.isSome && request.readsBody) = true)
    (hdeadline : service.deadline ≠ 0) (hsize : exchange.gathered.size ≤ service.limit)
    (hread : Body.readOnto service.limit exchange.gathered [.data payload] =
      Body.read service.limit [.data written.body.payload]) :
    Awaits service (.handling exchange)
      ((Part.data payload).pieces ++ .last :: todo.flatMap WrittenRequest.spelled) (written :: todo)
  | closed (left : List Part) (todo : List WrittenRequest) : Awaits service .closed left todo

/-- The next request is still to be read from its beginning. -/
theorem awaits_next (hstage : stage = .waiting ∨ stage = .arriving) :
    Awaits service stage (todo.flatMap WrittenRequest.spelled) todo := by
  have hidle := @Awaits.idle service stage [] todo hstage nofun
  exact hidle

/-- What there is to read of a well-formed request. -/
theorem spelled_of_wellFormed (h : written.WellFormed request) : written.spelled =
    .head { request with body := [] } ::
      ((Part.data written.body.payload).pieces ++ [.last]) := by
  rw [WrittenRequest.spelled, h.parts]
  rfl

/-- After an answer the rest of the body is passed over, unless the connection is closed. -/
theorem awaits_answered (stopping : Bool) (payload : Bytes) (todo : List WrittenRequest) :
    Awaits service (.answered stopping)
      ((Part.data payload).pieces ++ .last :: todo.flatMap WrittenRequest.spelled) todo := by
  cases stopping with
  | true => exact .closed _ _
  | false =>
    have hbody : ∀ part ∈ (Part.data payload).pieces ++ [.last], part.isBody = true := by
      intro part hpart
      rcases List.mem_append.mp hpart with hdata | hlast
      · obtain ⟨byte, -, rfl⟩ := List.mem_map.mp hdata
        rfl
      · obtain rfl := List.mem_singleton.mp hlast
        rfl
    rw [← List.singleton_append, ← List.append_assoc]
    exact .idle (.inl rfl) hbody

/-- What comes next where no request is handled: something of a body that nobody reads, or the next
head. -/
theorem idle_cases (hrest : ∀ part ∈ rest, part.isBody = true)
    (hwell : ∀ written ∈ todo, ∃ request, written.WellFormed request)
    (h : rest ++ todo.flatMap WrittenRequest.spelled = piece :: left) :
    (piece.isBody = true ∧ ∃ rest', (∀ part ∈ rest', part.isBody = true) ∧
        left = rest' ++ todo.flatMap WrittenRequest.spelled) ∨
      ∃ written request todo', todo = written :: todo' ∧ written.WellFormed request ∧
        piece = .head { request with body := [] } ∧
        left = (Part.data written.body.payload).pieces ++
          .last :: todo'.flatMap WrittenRequest.spelled := by
  cases rest with
  | cons first rest =>
    obtain ⟨rfl, rfl⟩ := List.cons_eq_cons.mp h
    rw [List.forall_mem_cons] at hrest
    exact .inl ⟨hrest.1, rest, hrest.2, rfl⟩
  | nil =>
    cases todo with
    | nil => contradiction
    | cons written todo =>
      obtain ⟨request, hwritten⟩ := hwell written List.mem_cons_self
      rw [List.nil_append, List.flatMap_cons, spelled_of_wellFormed hwritten, List.cons_append,
        List.cons_eq_cons] at h
      refine .inr ⟨written, request, todo, rfl, hwritten, h.1.symm, ?_⟩
      rw [← h.2, List.append_assoc]
      rfl

/-- Data that nobody reads is passed over. -/
theorem idle_data (hrest : ∀ part ∈ rest, part.isBody = true)
    (hwell : ∀ written ∈ todo, ∃ request, written.WellFormed request)
    (h : rest ++ todo.flatMap WrittenRequest.spelled = (Part.data bytes).pieces ++ left) :
    ∃ rest', (∀ part ∈ rest', part.isBody = true) ∧
      left = rest' ++ todo.flatMap WrittenRequest.spelled := by
  induction bytes generalizing rest with
  | nil => exact ⟨rest, hrest, h.symm⟩
  | cons byte bytes ih =>
    rcases idle_cases hrest hwell h with ⟨-, rest', hrest', hleft⟩ | ⟨_, _, _, -, -, hhead, -⟩
    · exact ih hrest' hleft.symm
    · contradiction

/-- Nothing but data and its end can come next of a body. -/
theorem isBody_of_cons {tail : List Part}
    (h : (Part.data payload).pieces ++ .last :: tail = piece :: left) : piece.isBody = true := by
  cases payload with
  | nil => exact (List.cons_eq_cons.mp h).1 ▸ rfl
  | cons byte payload => exact (List.cons_eq_cons.mp h).1 ▸ rfl

/-- Data of a body that is read is the beginning of what is left of it. -/
theorem exists_append_of_data {tail : List Part}
    (h : (Part.data payload).pieces ++ .last :: tail = (Part.data bytes).pieces ++ left) :
    ∃ more, payload = bytes ++ more ∧ left = (Part.data more).pieces ++ .last :: tail := by
  induction bytes generalizing payload with
  | nil => exact ⟨payload, rfl, h.symm⟩
  | cons byte bytes ih =>
    cases payload with
    | nil => exact absurd (List.head_eq_of_cons_eq h) (by nofun)
    | cons first payload =>
      obtain ⟨hfirst, hrest⟩ := List.cons_eq_cons.mp h
      obtain ⟨more, hpayload, hleft⟩ := ih hrest
      obtain rfl : first = byte := (List.cons_eq_cons.mp (Part.data.inj hfirst)).1
      exact ⟨more, by rw [hpayload, List.cons_append], hleft⟩

/-! ## One part -/

/-- A step served the first requests of those that were to be served, and others are left. -/
def Advances (service : Service) (next : Stage) (served : List Served) (left : List Part)
    (todo : List WrittenRequest) : Prop :=
  ∃ done rest, todo = done ++ rest ∧ List.Forall₂ (Agrees service) done served ∧
    Awaits service next left rest

/-- Nothing was served. -/
theorem advances_of_awaits (h : Awaits service next left todo) :
    Advances service next [] left todo := ⟨[], todo, rfl, .nil, h⟩

/-- The first request was served. -/
theorem advances_of_served (h : Agrees service written served)
    (hawaits : Awaits service next left todo) :
    Advances service next [served] left (written :: todo) :=
  ⟨[written], todo, rfl, .cons h .nil, hawaits⟩

/-- **A head is complete**: the request is served, or its body is awaited. -/
theorem advances_start (hwritten : written.WellFormed request)
    (hinTime : ∀ served ∈ (Stage.start service now stopping { request with body := [] }).2,
      (served.outcome service).response.status ≠ .requestTimeout) :
    let step := Stage.start service now stopping { request with body := [] }
    Advances service step.1 step.2.toList
      ((Part.data written.body.payload).pieces ++
        .last :: todo.flatMap WrittenRequest.spelled) (written :: todo) := by
  intro step
  -- Without any time every request times out.
  have hdeadline : service.deadline ≠ 0 := by
    intro hzero
    rw [Stage.start, if_pos hzero] at hinTime
    exact hinTime _ rfl rfl
  have houtcome := outcome_of_wellFormed hwritten hdeadline
  cases hreads : request.uri.path?.isSome && request.readsBody with
  | true =>
    have hstep : step = (.handling { request := { request with body := [] }, began := now }, none) := by
      show Stage.start service now stopping { request with body := [] } = _
      rw [Stage.start, if_neg hdeadline]
      exact if_pos hreads
    rw [hstep]
    exact advances_of_awaits (.handling hwritten rfl hreads hdeadline (Nat.zero_le _) rfl)
  | false =>
    have hstep : step =
        (.answered stopping, some (.finished { request with body := [] } (.ok []))) := by
      show Stage.start service now stopping { request with body := [] } = _
      rw [Stage.start, if_neg hdeadline]
      exact if_neg (by rw [← Bool.not_eq_true] at hreads; exact hreads)
    rw [hreads, if_neg Bool.false_ne_true] at houtcome
    rw [hstep]
    exact advances_of_served (agrees_of_outcome hwritten houtcome) (awaits_answered _ _ _)

/-- **A part is read where no request is handled.** -/
theorem advances_receive (hstage : stage = .waiting ∨ stage = .arriving)
    (hrest : ∀ part ∈ rest, part.isBody = true)
    (hwell : ∀ written ∈ todo, ∃ request, written.WellFormed request)
    (h : rest ++ todo.flatMap WrittenRequest.spelled = part.pieces ++ left)
    (hinTime : ∀ served ∈ (stage.receive service now stopping part).2,
      (served.outcome service).response.status ≠ .requestTimeout) :
    let step := stage.receive service now stopping part
    Advances service step.1 step.2.toList left todo := by
  intro step
  cases part with
  | beginning =>
    obtain rfl : _ = left := h
    exact advances_of_awaits (.idle (.inr rfl) hrest)
  | ended => exact advances_of_awaits (.closed _ _)
  | data bytes =>
    obtain ⟨rest', hrest', rfl⟩ := idle_data hrest hwell h
    exact advances_of_awaits (.idle hstage hrest')
  | last =>
    rcases idle_cases hrest hwell h with ⟨-, rest', hrest', rfl⟩ | ⟨_, _, _, -, -, hhead, -⟩
    · exact advances_of_awaits (.idle hstage hrest')
    · contradiction
  | head request =>
    rcases idle_cases hrest hwell h with ⟨hbody, -⟩ | ⟨written, request', todo', rfl, hwritten,
      hhead, rfl⟩
    · contradiction
    · obtain rfl := Part.head.inj hhead
      exact advances_start hwritten hinTime
  | refusal cause =>
    rcases idle_cases hrest hwell h with ⟨hbody, -⟩ | ⟨_, _, _, -, -, hhead, -⟩ <;> contradiction
  | failure message =>
    rcases idle_cases hrest hwell h with ⟨hbody, -⟩ | ⟨_, _, _, -, -, hhead, -⟩ <;> contradiction

/-- **A part of a body is read.** -/
theorem advances_handling {exchange : Exchange} (hwritten : written.WellFormed request)
    (hrequest : exchange.request = { request with body := [] })
    (hreads : (request.uri.path?.isSome && request.readsBody) = true)
    (hdeadline : service.deadline ≠ 0) (hsize : exchange.gathered.size ≤ service.limit)
    (hread : Body.readOnto service.limit exchange.gathered [.data payload] =
      Body.read service.limit [.data written.body.payload])
    (h : (Part.data payload).pieces ++ .last :: todo.flatMap WrittenRequest.spelled =
      part.pieces ++ left) :
    let step := (Stage.handling exchange).feed service now stopping part
    Advances service step.1 step.2.toList left (written :: todo) := by
  intro step
  have hfinished : ∀ reading, reading = Body.read service.limit [.data written.body.payload] →
      Agrees service written (.finished exchange.request reading) := by
    rintro reading rfl
    have houtcome := outcome_of_wellFormed hwritten hdeadline
    rw [hreads, if_pos rfl] at houtcome
    rw [hrequest]
    exact agrees_of_outcome hwritten houtcome
  cases part with
  | beginning =>
    obtain rfl : _ = left := h
    exact advances_of_awaits (.handling hwritten hrequest hreads hdeadline hsize hread)
  | ended =>
    obtain rfl : _ = left := h
    exact advances_of_awaits (.handling hwritten hrequest hreads hdeadline hsize hread)
  | data bytes =>
    obtain ⟨more, rfl, rfl⟩ := exists_append_of_data h
    have hstep : step = Stage.gather service.limit stopping exchange (.data bytes) := rfl
    rw [Stage.gather] at hstep
    cases hadd : exchange.gathered.add service.limit (.data bytes) with
    | error fault =>
      rw [hadd] at hstep
      rw [hstep]
      refine advances_of_served (hfinished _ ?_) (awaits_answered _ _ _)
      rw [← hread, Body.readOnto_of_add_error hadd]
    | ok gathered =>
      rw [hadd] at hstep
      rw [hstep]
      obtain ⟨hsize', hmore⟩ := Body.readOnto_of_add_ok hadd more
      exact advances_of_awaits (.handling hwritten hrequest hreads hdeadline hsize'
        (hmore.trans hread))
  | last =>
    have hpayload : payload = [] ∧ left = todo.flatMap WrittenRequest.spelled := by
      cases payload with
      | nil => exact ⟨rfl, (List.cons_eq_cons.mp h).2.symm⟩
      | cons byte payload => exact absurd (List.cons_eq_cons.mp h).1 (by simp)
    obtain ⟨rfl, rfl⟩ := hpayload
    have hstep : step = (.answered stopping,
        some (.finished exchange.request (.ok exchange.gathered.bytes))) := rfl
    rw [Body.readOnto_data, List.length_nil, if_neg (by omega), List.append_nil] at hread
    rw [hstep]
    refine advances_of_served (hfinished _ hread) ?_
    cases stopping with
    | true => exact .closed _ _
    | false => exact awaits_next (.inl rfl)
  | head request => exact absurd (isBody_of_cons h) Bool.false_ne_true
  | refusal cause => exact absurd (isBody_of_cons h) Bool.false_ne_true
  | failure message => exact absurd (isBody_of_cons h) Bool.false_ne_true

/-- **A part is read**: the request that is served because of it, if there is one, is the next one
that is to be served. -/
theorem Awaits.feed {total : List Part} (h : Awaits service stage total todo)
    (hwell : ∀ written ∈ todo, ∃ request, written.WellFormed request)
    (htotal : total = part.pieces ++ left)
    (hinTime : ∀ served ∈ (stage.feed service now stopping part).2,
      (served.outcome service).response.status ≠ .requestTimeout) :
    let step := stage.feed service now stopping part
    Advances service step.1 step.2.toList left todo := by
  cases h with
  | idle hstage hrest =>
    have hfeed : stage.feed service now stopping part = stage.receive service now stopping part := by
      rcases hstage with rfl | rfl <;> rfl
    rw [hfeed] at hinTime ⊢
    exact advances_receive hstage hrest hwell htotal hinTime
  | handling hwritten hrequest hreads hdeadline hsize hread =>
    exact advances_handling hwritten hrequest hreads hdeadline hsize hread htotal
  | closed _ _ => exact advances_of_awaits (.closed _ _)

/-! ## A whole connection -/

/-- Time gives up a request, or nothing happens. -/
theorem expire_eq (hinTime : ∀ served ∈ (stage.expire service now stopping).2,
    (served.outcome service).response.status ≠ .requestTimeout) :
    stage.expire service now stopping = (stage, none) := by
  cases stage with
  | handling exchange =>
    rw [Stage.expire] at hinTime ⊢
    split
    case isTrue hlate =>
      rw [if_pos hlate] at hinTime
      exact absurd rfl (hinTime _ rfl)
    case isFalse => rfl
  | waiting => rfl
  | arriving => rfl
  | closed => rfl

/-- An instance that is told to stop goes on with what is to be served, or closes the connection. -/
theorem Awaits.stop (h : Awaits service stage left todo) : Awaits service stage.stop left todo := by
  rw [Stage.stop]
  split
  · exact h
  · exact .closed _ _

/-- **As long as no request times out a connection serves the next requests**, one after the other. -/
theorem Line.Runs.advances {before after : Line} {history : History} {total : List Part}
    (h : Line.Runs service told before history after) (hawaits : Awaits service before.stage total todo)
    (hwell : ∀ written ∈ todo, ∃ request, written.WellFormed request)
    (htotal : total = history.parts.flatMap Part.pieces ++ left)
    (hinTime : ∀ served ∈ history.served,
      (served.outcome service).response.status ≠ .requestTimeout) :
    Advances service after.stage history.served left todo := by
  -- What is left to be read and to be served changes on the way, so the induction is for all of it.
  induction h generalizing total left todo with
  | still line =>
    obtain rfl : total = left := htotal
    exact advances_of_awaits hawaits
  | read _ hstep =>
    subst hstep
    rw [List.flatMap_singleton] at htotal
    exact hawaits.feed hwell htotal fun served hserved =>
      hinTime served (Option.mem_toList.mpr hserved)
  | expired _ hstep =>
    subst hstep
    obtain rfl : total = left := htotal
    have hexpire := @expire_eq service _ _ _ fun served hserved =>
      hinTime served (Option.mem_toList.mpr hserved)
    rw [hexpire]
    exact advances_of_awaits hawaits
  | received stage response rest =>
    obtain rfl : total = left := htotal
    exact advances_of_awaits hawaits
  | stopped line _ =>
    obtain rfl : total = left := htotal
    exact advances_of_awaits hawaits.stop
  | @append before middle after first second _ _ ihfirst ihsecond =>
    have htotal : total = first.parts.flatMap Part.pieces ++
        (second.parts.flatMap Part.pieces ++ left) := by
      rw [htotal, ← List.append_assoc, ← List.flatMap_append]
      rfl
    have hserved : (first ++ second).served = first.served ++ second.served := rfl
    rw [hserved, List.forall_mem_append] at hinTime
    obtain ⟨done, rest, rfl, hdone, hmiddle⟩ := ihfirst hawaits hwell htotal hinTime.1
    rw [List.forall_mem_append] at hwell
    obtain ⟨done', rest', rfl, hdone', hafter⟩ := ihsecond hmiddle hwell.2 rfl hinTime.2
    exact ⟨done ++ done', rest', (List.append_assoc _ _ _).symm, List.rel_append hdone hdone', hafter⟩

/-- A connection did for the first `count` of some requests what the service does without a
connection: the responses are theirs, in their order, and so are the blocks. -/
structure Routed (service : Service) (requests : List WrittenRequest) (count : Nat)
    (responses : List Response) (blocks : List String) : Prop where
  count_le : count ≤ requests.length
  results : responses.map Result.answered =
    (requests.take count).flatMap fun written => (Server.alone service written.parts).results
  blocks : blocks =
    (requests.take count).flatMap fun written => (Server.alone service written.parts).blocks

/-- Requests that were served as they are without a connection leave the same behind. -/
theorem routed_of_agrees {log : List Served} (h : List.Forall₂ (Agrees service) done log)
    (rest : List WrittenRequest) : Routed service (done ++ rest) done.length
      (Served.responses service log) (Served.blocks service log) := by
  refine ⟨by simp, ?_, ?_⟩
  · rw [List.take_left]
    induction h with
    | nil => rfl
    | cons hfirst _ ih =>
      rw [List.flatMap_cons, hfirst.results, ← ih]
      rfl
  · rw [List.take_left]
    induction h with
    | nil => rfl
    | cons hfirst _ ih =>
      rw [List.flatMap_cons, hfirst.blocks, ← ih, Served.blocks, Served.blocks,
        List.filterMap_eq_flatMap_toList, List.flatMap_cons, ← List.filterMap_eq_flatMap_toList]

/-- Where nothing is left to be read no request is left to be served. -/
theorem Awaits.eq_nil (h : Awaits service stage left todo) (hleft : left = [])
    (hopen : stage ≠ .closed) (hwell : ∀ written ∈ todo, ∃ request, written.WellFormed request) :
    todo = [] := by
  cases h with
  | closed _ _ => exact absurd rfl hopen
  | handling => exact absurd hleft (by simp)
  | idle =>
    cases todo with
    | nil => rfl
    | cons written todo =>
      obtain ⟨request, hwritten⟩ := hwell written List.mem_cons_self
      rw [List.flatMap_cons, spelled_of_wellFormed hwritten] at hleft
      simp at hleft

/-- Nothing in well-formed requests is a refusal. -/
theorem refusal_not_mem (hwell : ∀ written ∈ requests, ∃ request, written.WellFormed request)
    (cause : Refusal) : .refusal cause ∉ requests.flatMap WrittenRequest.spelled := by
  intro hmem
  obtain ⟨written, hmem, hspelled⟩ := List.mem_flatMap.mp hmem
  obtain ⟨request, hwritten⟩ := hwell written hmem
  rw [spelled_of_wellFormed hwritten] at hspelled
  simp [Part.pieces] at hspelled

/-- **A connection on which well-formed requests are read as they are framed** serves the first of them
as they are served without a connection, if none of them times out.  It serves all of them if they are
read to the end, unless the library or the end of the instance closes the connection. -/
theorem Line.Runs.routed {after : Line} {history : History}
    (h : Line.Runs service told {} history after)
    (hwell : ∀ written ∈ requests, ∃ request, written.WellFormed request)
    (hparts : history.parts.flatMap Part.pieces <+: requests.flatMap WrittenRequest.spelled)
    (hinTime : ∀ served ∈ history.served,
      (served.outcome service).response.status ≠ .requestTimeout) :
    ∃ count, Routed service requests count (history.received ++ after.inbox)
        (Served.blocks service history.served) ∧
      (told = false → .ended ∉ history.parts →
        history.parts.flatMap Part.pieces = requests.flatMap WrittenRequest.spelled →
          count = requests.length) := by
  obtain ⟨left, hleft⟩ := hparts
  have hstart : Awaits service .waiting (requests.flatMap WrittenRequest.spelled) requests :=
    awaits_next (.inl rfl)
  obtain ⟨done, rest, rfl, hdone, hafter⟩ := h.advances hstart hwell hleft.symm hinTime
  have hrouted := routed_of_agrees hdone rest
  have hreceived : history.received ++ after.inbox = Served.responses service history.served :=
    h.received_append_inbox
  rw [← hreceived] at hrouted
  refine ⟨done.length, hrouted, fun htold hended hall => ?_⟩
  subst htold
  have hrefusal (cause : Refusal) : .refusal cause ∉ history.parts := by
    intro hmem
    refine refusal_not_mem hwell cause (hall ▸ ?_)
    exact List.mem_flatMap.mpr ⟨_, hmem, List.mem_singleton_self _⟩
  have hopen := h.stage_ne_closed (by nofun) hended hrefusal
  rw [hall, List.append_right_eq_self] at hleft
  rw [List.forall_mem_append] at hwell
  rw [hafter.eq_nil hleft hopen hwell.2, List.append_nil]

end Wire

end EchoBackend
