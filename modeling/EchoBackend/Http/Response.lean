/-
# Responses

A response is a status, a few headers that are known by name, and a body.
-/
import EchoBackend.Http.RequestId

namespace EchoBackend

namespace Http

/-- The statuses in which a request can end; the last three are for what is no request. -/
inductive Status where
  | ok
  | notFound
  | requestTimeout
  | badRequest
  | uriTooLong
  | headersTooLarge
  deriving DecidableEq, Repr

namespace Status

/-- The number of a status. -/
def code : Status → Nat
  | ok => 200
  | notFound => 404
  | requestTimeout => 408
  | badRequest => 400
  | uriTooLong => 414
  | headersTooLarge => 431

end Status

/-- An answer to a request. -/
structure Response where
  status : Status
  contentType : Option String := none
  contentLength : Option Nat := none
  requestId : Option RequestId := none
  body : Bytes := []
  deriving DecidableEq, Repr

/-- The header fields of a response, `fresh` being used for an identifier that has to be
made. -/
def Response.fields (fresh : Uuid4) (response : Response) : List (String × Bytes) :=
  (response.contentType.map fun kind => ("content-type", Utf8.bytes kind)).toList ++
  (response.contentLength.map fun length => ("content-length", Utf8.bytes length.repr)).toList ++
  (response.requestId.map fun id => ("x-request-id", id.value fresh)).toList

end Http

end EchoBackend
