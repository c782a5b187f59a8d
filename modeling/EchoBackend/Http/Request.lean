/-
# Requests

A request is a method, a URI, headers and a body.  Not every text makes one: the method is
judged first, then the URI, then the headers in order.
-/
import EchoBackend.Http.Header
import EchoBackend.Http.Uri
import EchoBackend.Http.Body

namespace EchoBackend

namespace Http

/-- A well-formed request. -/
structure Request where
  method : Method
  uri : Uri
  headers : Headers := []
  body : Body := []
  deriving DecidableEq, Repr

/-- Why something is not a request. -/
inductive RequestFault where
  | method
  | uri (fault : UriFault)
  | header (fault : HeaderFault)
  deriving DecidableEq, Repr

/-- The text of a fault. -/
def RequestFault.message : RequestFault → String
  | .method => "invalid HTTP method"
  | .uri fault => fault.message
  | .header fault => fault.message

namespace Request

/-- Makes a request of its parts. -/
def ofParts (method uri : Bytes) (headers : List (Bytes × Bytes)) (body : Body) :
    Except RequestFault Request :=
  match Method.ofBytes? method with
  | none => .error .method
  | some method =>
    match Uri.ofBytes uri with
    | .error fault => .error (.uri fault)
    | .ok uri =>
      match Headers.ofPairs headers with
      | .error fault => .error (.header fault)
      | .ok headers => .ok ⟨method, uri, headers, body⟩

/-- Only the body of a `POST` is read. -/
def readsBody (request : Request) : Bool := request.method == Method.post

end Request

end Http

end EchoBackend
