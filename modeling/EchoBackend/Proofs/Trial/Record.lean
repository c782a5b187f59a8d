/-
# The record of a trial

What stands in the sink and in the inboxes of the clients while a script is played: the blocks and
the responses of the requests that were served so far, in the order in which that happened.  The main
statement is `Recorded.play`.
-/
import EchoBackend.Proofs.Trial.Steps

namespace EchoBackend

namespace Trial

open Http Wire Echo

variable {service : Service} {before : List String} {log more : List (String × Served)}
  {trial next : Trial} {step : Step} {script : List Step} {turn : Turn} {played : Played}

/-- The responses to the requests of a log. -/
def responsesOf (service : Service) (log : List (String × Served)) : List Response :=
  Served.responses service (log.map Prod.snd)

/-- What is known once some requests were served: their blocks stand in the sink after those from
before, and every response that waits for a client is the response to one of them. -/
structure Recorded (service : Service) (before : List String) (log : List (String × Served))
    (trial : Trial) : Prop where
  host : trial.host.service = service
  blocks : trial.host.sink.blocks = before ++ Served.blocks service (log.map Prod.snd)
  inbox : ∀ name, ∀ line ∈ trial.host.line? name, line.inbox ⊆ responsesOf service log

/-- The responses to more requests. -/
theorem responsesOf_append :
    responsesOf service (log ++ more) = responsesOf service log ++ responsesOf service more := by
  rw [responsesOf, List.map_append, Served.responses_append]
  rfl

/-- Whatever is reported of an instance is recorded. -/
theorem Recorded.report (h : Recorded service before log trial)
    {act : List (String × Served) × Host} (hact : trial.host.Reports act) :
    Recorded service before (log ++ act.1) { trial with host := act.2 } := by
  obtain ⟨hservice, hblocks, hinbox⟩ := h
  refine ⟨hact.service.trans hservice, ?_, fun name line hline response hresponse => ?_⟩
  · rw [hact.blocks, hblocks, hservice, List.map_append, Served.blocks_append, List.append_assoc]
  · rw [responsesOf_append, List.mem_append]
    rcases hact.inbox name line hline response hresponse with ⟨old, hold, hresponse⟩ | hnew
    · exact .inl (hinbox name old hold hresponse)
    · rw [hservice] at hnew
      exact .inr hnew

/-- A change of the stop signal records nothing. -/
theorem Recorded.changed (h : Recorded service before log trial) (hchanged : Changed trial next) :
    Recorded service before log next := by
  obtain ⟨hservice, hblocks, hinbox⟩ := h
  obtain ⟨events, hhost | hhost⟩ := hchanged.host
  · exact ⟨by rw [hhost, hservice], by rw [hhost, hblocks], by rw [hhost]; exact hinbox⟩
  · refine ⟨by rw [hhost]; exact hservice, by rw [hhost]; exact hblocks, fun name line hline => ?_⟩
    rw [hhost, Host.line?_stop] at hline
    obtain ⟨before, hbefore, rfl⟩ := Option.map_eq_some_iff.mp hline
    exact hinbox name before hbefore

/-- **A step records the requests that are served because of it.** -/
theorem Recorded.perform (h : Recorded service before log trial)
    (hturn : trial.perform step = .ok turn) :
    Recorded service before (log ++ turn.served) turn.next ∧
      turn.answer.response?.toList ⊆ responsesOf service (log ++ turn.served) := by
  cases performed hturn with
  | idle _ hanswer =>
    rw [List.append_nil, hanswer]
    exact ⟨h, List.nil_subset _⟩
  | connected name _ _ => exact ⟨h.report Host.reports_connect, List.nil_subset _⟩
  | read part hline => exact ⟨h.report (Host.reports_read hline), List.nil_subset _⟩
  | @received name stage response rest hline =>
    have hinbox := h.inbox name _ hline
    have hput : Recorded service before log
        { trial with host := trial.host.put name ⟨stage, rest⟩ } := by
      refine ⟨h.host, h.blocks, fun other line hother => ?_⟩
      rw [Host.line?_put] at hother
      split at hother
      · obtain rfl := Option.some.inj hother
        exact List.subset_of_cons_subset hinbox
      · exact h.inbox other line hother
    show Recorded service before (log ++ []) _ ∧ [response] ⊆ responsesOf service (log ++ [])
    rw [List.append_nil]
    exact ⟨hput, List.cons_subset.mpr ⟨hinbox List.mem_cons_self, List.nil_subset _⟩⟩
  | closed name => exact ⟨h.report Host.reports_leave, List.nil_subset _⟩
  | waited milliseconds => exact ⟨h.report Host.reports_wait, List.nil_subset _⟩
  | outputClosed =>
    rw [List.append_nil]
    exact ⟨⟨h.host, h.blocks, h.inbox⟩, List.nil_subset _⟩
  | changed _ hchanged =>
    rw [List.append_nil]
    exact ⟨h.changed hchanged, List.nil_subset _⟩

/-- **A script records the requests that are served because of it**, and every response that a
client receives is the response to one of them. -/
theorem Recorded.play (h : Recorded service before log trial)
    (hplay : trial.play script = .ok played) :
    Recorded service before (log ++ played.served) played.final ∧
      ∀ answer ∈ played.answers,
        answer.response?.toList ⊆ responsesOf service (log ++ played.served) := by
  induction script generalizing trial log played with
  | nil =>
    obtain rfl := Except.ok.inj hplay
    rw [List.append_nil]
    exact ⟨h, nofun⟩
  | cons step script ih =>
    obtain ⟨turn, rest, hturn, hrest, rfl⟩ := play_cons_eq_ok_iff.mp hplay
    obtain ⟨hnext, hanswer⟩ := h.perform hturn
    obtain ⟨hfinal, hanswers⟩ := ih hnext hrest
    show Recorded service before (log ++ (turn.served ++ rest.served)) rest.final ∧
      ∀ answer ∈ turn.answer :: rest.answers,
        answer.response?.toList ⊆ responsesOf service (log ++ (turn.served ++ rest.served))
    rw [← List.append_assoc]
    refine ⟨hfinal, List.forall_mem_cons.mpr ⟨?_, hanswers⟩⟩
    rw [responsesOf_append]
    exact List.subset_append_of_subset_left _ hanswer

/-- As long as the output is not closed its reader stays. -/
theorem readUpTo_play (hplay : trial.play script = .ok played)
    (h : Step.closeOutput ∉ script) : played.final.readUpTo = trial.readUpTo := by
  induction script generalizing trial played with
  | nil =>
    obtain rfl := Except.ok.inj hplay
    rfl
  | cons step script ih =>
    obtain ⟨turn, rest, hturn, hrest, rfl⟩ := play_cons_eq_ok_iff.mp hplay
    rw [List.mem_cons, not_or] at h
    have hnext : turn.next.readUpTo = trial.readUpTo := by
      cases performed hturn with
      | changed _ hchanged => exact hchanged.readUpTo
      | outputClosed => exact absurd rfl h.1
      | _ => rfl
    exact (ih hrest h.2).trans hnext

end Trial

end EchoBackend
