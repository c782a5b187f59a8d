/-
# Log events of the service

What is logged when a request is echoed: that its body could not be read, and what was
seen of it.
-/
import EchoBackend.Echo.Service
import EchoBackend.Log.Event
import EchoBackend.Text.Flaw

namespace EchoBackend

namespace Echo

open Http

/-- The event of a body that could not be read. -/
def unreadableBody (error : String) : Log.Event :=
  ⟨.debug, "echo_target::http::request", "Failed to read request body", [⟨"error", error⟩]⟩

/-- The event of a body that is not UTF-8. -/
def bodyNotText (flaw : Utf8.Flaw) : Log.Event :=
  ⟨.debug, "echo_target::http::request", "Request body is not valid UTF-8",
    [⟨"error", flaw.message⟩]⟩

/-- The events of the reading of a body. -/
def readingEvents : Except BodyFault Bytes → List Log.Event
  | .error (.failed message) => [unreadableBody message]
  | .error .tooLong => [unreadableBody "length limit exceeded"]
  | .ok bytes => ((Utf8.flaw? bytes).map bodyNotText).toList

namespace Service

/-- The event of an echoed request. -/
def echoing (service : Service) (incoming : Incoming) : Log.Event :=
  ⟨.debug, "echo_target::http::server", "Echoing request",
    [⟨"server", service.target.identity.label⟩, ⟨"method", incoming.method.text⟩,
      ⟨"endpoint", incoming.endpoint⟩, ⟨"x_user_id", incoming.userIdOrNone⟩,
      ⟨"has_payload", if incoming.payload.isSome then "true" else "false"⟩]⟩

/-- The events of a request that is handled in time. -/
def events (service : Service) (request : Request) (reading : Except BodyFault Bytes) :
    List Log.Event :=
  match request.uri.path? with
  | none => []
  | some path =>
    (if request.readsBody then readingEvents reading else []) ++
      [service.echoing
        (Incoming.ofReading request.method (pathSegment path) request.headers reading)]

end Service

end Echo

end EchoBackend
