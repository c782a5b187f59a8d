/-
# Requests that are served

What requests that were served one after the other leave behind: their responses and their blocks.  A
block goes with every response of success, and with no other one.
-/
import EchoBackend.Proofs.Service.Answer
import EchoBackend.Wire.Connection

namespace EchoBackend

namespace Wire

open Http Echo

namespace Served

variable {service : Service} {served : Served} {x y : List Served}

@[simp] theorem responses_append :
    responses service (x ++ y) = responses service x ++ responses service y := List.map_append

@[simp] theorem blocks_append : blocks service (x ++ y) = blocks service x ++ blocks service y :=
  List.filterMap_append

/-- A refusal is no success. -/
theorem status_refused (cause : Refusal) :
    ((refused cause).outcome service).response.status ≠ .ok := by
  cases cause <;> nofun

/-- A request is reported in a block exactly if it is answered with success. -/
theorem status_eq_ok_iff :
    (served.outcome service).response.status = .ok ↔ (served.outcome service).block.isSome := by
  cases served with
  | refused cause => exact iff_of_false (status_refused cause) Bool.false_ne_true
  | late request => exact iff_of_false (by nofun) Bool.false_ne_true
  | finished request reading =>
    rw [outcome]
    cases hpath : request.uri.path? with
    | none =>
      rw [Service.finish_of_no_path hpath]
      simp [Service.notFound]
    | some path =>
      rw [Service.finish_of_path hpath]
      simp [Service.echo, Service.jsonResponse]

end Served

end Wire

end EchoBackend
