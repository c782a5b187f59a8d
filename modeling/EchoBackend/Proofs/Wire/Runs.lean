/-
# What happens on a connection

`Line.Runs` says in which ways one connection can go on while whatever happens on the others: parts
are read off it, time passes, the client receives responses, and the instance is told to stop.  What
the client receives, and what still waits for it, are the responses to the requests that were served,
in their order (`Line.Runs.received`), and only the library or the end of the instance closes
a connection (`Line.Runs.stage_ne_closed`).
-/
import EchoBackend.Proofs.Wire.Served
import EchoBackend.Wire.Host

namespace EchoBackend

namespace Wire

open Http Echo

/-- What happened on a connection: the parts that were read, the requests that were served, and the
responses that the client received. -/
structure History where
  parts : List Part := []
  served : List Served := []
  received : List Response := []

namespace History

/-- What happened first, and then. -/
def append (x y : History) : History :=
  ⟨x.parts ++ y.parts, x.served ++ y.served, x.received ++ y.received⟩

instance : Append History := ⟨append⟩

end History

/-- The ways in which a connection goes on; unless `told`, the instance is not about to stop. -/
inductive Line.Runs (service : Service) (told : Bool) : Line → History → Line → Prop
  | still (line : Line) : Runs service told line {} line
  | read {line : Line} {now : Nat} {stopping : Bool} {part : Part} {step : Stage × Option Served}
    (h : stopping → told) (hstep : line.stage.feed service now stopping part = step) :
    Runs service told line { parts := [part], served := step.2.toList } (line.after service step)
  | expired {line : Line} {now : Nat} {stopping : Bool} {step : Stage × Option Served}
    (h : stopping → told) (hstep : line.stage.expire service now stopping = step) :
    Runs service told line { served := step.2.toList } (line.after service step)
  | received (stage : Stage) (response : Response) (rest : List Response) :
    Runs service told ⟨stage, response :: rest⟩ { received := [response] } ⟨stage, rest⟩
  | stopped (line : Line) (h : told = true) :
    Runs service told line {} { line with stage := line.stage.stop }
  | append {before middle after : Line} {first second : History}
    (hfirst : Runs service told before first middle)
    (hsecond : Runs service told middle second after) :
    Runs service told before (first ++ second) after

namespace Line.Runs

variable {service : Service} {told : Bool} {before after : Line} {history : History}

/-- **The responses to the requests that were served are received in their order**, or still wait. -/
theorem received_append_inbox (h : Line.Runs service told before history after) :
    history.received ++ after.inbox =
      before.inbox ++ Served.responses service history.served := by
  induction h with
  | still line => exact (List.append_nil _).symm
  | read _ _ => rfl
  | expired _ _ => rfl
  | received stage response rest => exact (List.append_nil _).symm
  | stopped line _ => exact (List.append_nil _).symm
  | @append before middle after first second _ _ ihfirst ihsecond =>
    show first.received ++ second.received ++ after.inbox =
      before.inbox ++ Served.responses service (first.served ++ second.served)
    rw [List.append_assoc, ihsecond, ← List.append_assoc, ihfirst, Served.responses_append,
      List.append_assoc]

/-! ## Closing -/

/-- An answer closes no connection, unless the instance is about to stop. -/
theorem answered_ne_closed : Stage.answered false ≠ .closed := nofun

/-- Only the library closes a connection by a part. -/
theorem feed_ne_closed {stage : Stage} {part : Part} {now : Nat} (hstage : stage ≠ .closed)
    (hended : part ≠ .ended) (hrefusal : ∀ cause, part ≠ .refusal cause) :
    (stage.feed service now false part).1 ≠ .closed := by
  have hgather (exchange : Exchange) (piece : Piece) :
      (Stage.gather service.limit false exchange piece).1 ≠ .closed := by
    rw [Stage.gather]
    split
    · exact answered_ne_closed
    · nofun
  have hreceive (stage : Stage) (hstage : stage ≠ .closed) :
      (stage.receive service now false part).1 ≠ .closed := by
    cases part with
    | head request =>
      rw [Stage.receive, Stage.start]
      split
      · exact answered_ne_closed
      · split
        · nofun
        · exact answered_ne_closed
    | beginning => nofun
    | refusal cause => exact absurd rfl (hrefusal cause)
    | ended => exact absurd rfl hended
    | data bytes => exact hstage
    | last => exact hstage
    | failure message => exact hstage
  cases stage with
  | closed => exact absurd rfl hstage
  | waiting => exact hreceive .waiting (by nofun)
  | arriving => exact hreceive .arriving (by nofun)
  | handling exchange =>
    cases part with
    | data bytes => exact hgather exchange _
    | failure message => exact hgather exchange _
    | last => exact answered_ne_closed
    | _ => nofun

/-- Time closes no connection, unless the instance is about to stop. -/
theorem expire_ne_closed {stage : Stage} {now : Nat} (hstage : stage ≠ .closed) :
    (stage.expire service now false).1 ≠ .closed := by
  cases stage with
  | handling exchange =>
    rw [Stage.expire]
    split
    · exact answered_ne_closed
    · nofun
  | waiting => exact hstage
  | arriving => exact hstage
  | closed => exact hstage

/-- **A connection stays open** unless the library or the end of the instance closes it. -/
theorem stage_ne_closed (h : Line.Runs service false before history after)
    (hbefore : before.stage ≠ .closed) (hended : .ended ∉ history.parts)
    (hrefusal : ∀ cause, .refusal cause ∉ history.parts) : after.stage ≠ .closed := by
  -- The instance is not about to stop at the end, so it is not at any moment before.
  induction h with
  | still line => exact hbefore
  | read hstopping hstep =>
    rw [Bool.eq_false_iff.mpr fun hstops => Bool.false_ne_true (hstopping hstops)] at hstep
    subst hstep
    exact feed_ne_closed hbefore (fun heq => hended (heq ▸ List.mem_singleton_self _))
      fun cause heq => hrefusal cause (heq ▸ List.mem_singleton_self _)
  | expired hstopping hstep =>
    rw [Bool.eq_false_iff.mpr fun hstops => Bool.false_ne_true (hstopping hstops)] at hstep
    subst hstep
    exact expire_ne_closed hbefore
  | received stage response rest => exact hbefore
  | stopped line htold => contradiction
  | @append before middle after first second _ _ ihfirst ihsecond =>
    have hended : .ended ∉ first.parts ++ second.parts := hended
    have hrefusal (cause : Refusal) : .refusal cause ∉ first.parts ++ second.parts :=
      hrefusal cause
    simp only [List.mem_append, not_or] at hended hrefusal
    exact ihsecond (ihfirst hbefore hended.1 fun cause => (hrefusal cause).1) hended.2
      fun cause => (hrefusal cause).2

end Line.Runs

end Wire

end EchoBackend
